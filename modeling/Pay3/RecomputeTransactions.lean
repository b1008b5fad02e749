import Pay3.PaymentRepository
import Pay3.ReadCommitted

/-!
# The payment transactions, statement by statement

Elsewhere a transaction of the payment repositories is one step. Here it is the
sequence of its statements, and the statements of any number of transactions
are interleaved under `READ COMMITTED`: each reads what was committed when it
began together with the transaction's own writes, and each row it locks it
waits for, and then reads as it has become.

An `UPDATE` of several rows finds them in its snapshot, and locks and rereads
them one by one, in any order. The `SELECT` of `recompute_orders_in_tx` is the other
statement that does two things: it locks the orders, one by one, and it sums
over their payments. The sums are over the snapshot, whatever was committed
while it waited for the locks.
-/

/-! ## Transactions as statements -/

/-- What a transaction can lock. -/
inductive LockedRow
  | payment (key : ℕ × TxHash × ℕ)
  | order (id : Uuid)
  | cursor (stream : StreamId)
  deriving DecidableEq

/-- What a transaction asks of the cursor it has locked. -/
inductive CursorCheck
  /-- `commit_scanned_batch`: the cursor is as the batch expects it. -/
  | expects (workerId : String) (lastScannedBlock seenKvReorgEpoch : ℕ)
  /-- `handle_kv_reorg_epoch`: the epoch is new. -/
  | newEpoch (epoch : ℕ)

/-- How a transaction goes on after that. -/
inductive CursorVerdict
  | proceeds
  /-- It commits without having written anything. -/
  | ends
  | fails

/-- The answer of the cursor. -/
def CursorCheck.verdict (c : ChainCursor) : CursorCheck → CursorVerdict
  | .expects workerId last epoch =>
    if c.leaseOwner = some workerId ∧ c.lastScannedBlock = last ∧ c.seenKvReorgEpoch = epoch
      then .proceeds
    else .fails
  | .newEpoch epoch => if epoch ≤ c.seenKvReorgEpoch then .ends else .proceeds

/-- The `UPDATE payments` of a sweep or of a rewind. -/
inductive PaymentUpdate
  | confirm (batch : ConfirmObservedPaymentsBatch)
  | orphan (stream : StreamId) (lastReorgFrom : ℕ)

/-- Its `WHERE`. -/
def PaymentUpdate.selects : PaymentUpdate → PaymentRecord → Bool
  | .confirm batch => confirmSelects batch
  | .orphan stream lastReorgFrom => orphanSelects stream lastReorgFrom

/-- Its `SET`. -/
def PaymentUpdate.row : PaymentUpdate → PaymentRecord → PaymentRecord
  | .confirm batch => confirmRow batch.canonicalHead
  | .orphan _ _ => orphanRow

/-- An update keeps the key and the order of a row. -/
theorem PaymentUpdate.row_key (u : PaymentUpdate) (p : PaymentRecord) : (u.row p).key = p.key := by
  cases u <;> rfl

theorem PaymentUpdate.row_orderId (u : PaymentUpdate) (p : PaymentRecord) :
    (u.row p).orderId = p.orderId := by
  cases u <;> rfl

/-- The `UPDATE chain_cursors`. -/
inductive CursorWrite
  | advance (stream : StreamId) (completeToBlock : ℕ)
  | rewind (stream : StreamId) (epoch lastReorgFrom : ℕ)

/-- The cursor it writes to. -/
def CursorWrite.stream : CursorWrite → StreamId
  | .advance stream _ => stream
  | .rewind stream _ _ => stream

/-- What it writes. -/
def CursorWrite.row : CursorWrite → ChainCursor → ChainCursor
  | .advance _ completeToBlock => ChainCursor.advanced completeToBlock
  | .rewind _ epoch lastReorgFrom => ChainCursor.rewound epoch lastReorgFrom

/-- **A statement before the recompute.** -/
inductive Statement
  | lockCursor (stream : StreamId) (check : CursorCheck)
  | upsert (stream : StreamId) (payment : MatchedPaymentInput)
  | update (u : PaymentUpdate)
  | moveCursor (write : CursorWrite)

/-- **The transactions that change payments.** -/
inductive RepositoryCall
  | commitScannedBatch (batch : CommitScannedBatch)
  | confirmObservedPayments (batch : ConfirmObservedPaymentsBatch)
  | handleKvReorgEpoch (stream : StreamId) (epoch lastReorgFrom : ℕ)
  | recordVerifiedPayments (orderId : Uuid) (matchedPayments : List MatchedPaymentInput)

namespace RepositoryCall

/-- The checks made before the transaction begins. -/
def check : RepositoryCall → Except RepositoryError Unit
  | .commitScannedBatch batch => do
    ensure (decide (batch.expectedLastScannedBlock ≤ batch.completeToBlock))
      (.invalidArgument "complete_to_block"
        "complete_to_block must not be lower than expected_last_scanned_block")
    let _ ← paymentU64ToI64 batch.stream.chainId "chain_id"
    let _ ← paymentU64ToI64 batch.expectedLastScannedBlock "expected_last_scanned_block"
    let _ ← paymentU64ToI64 batch.expectedSeenKvReorgEpoch "expected_seen_kv_reorg_epoch"
    let _ ← paymentU64ToI64 batch.completeToBlock "complete_to_block"
  | .confirmObservedPayments batch => do
    let _ ← paymentU64ToI64 batch.stream.chainId "chain_id"
    let _ ← paymentU64ToI64 batch.canonicalHead.number "canonical_head.number"
  | .handleKvReorgEpoch stream epoch lastReorgFrom => do
    let _ ← paymentU64ToI64 stream.chainId "chain_id"
    let _ ← paymentU64ToI64 epoch "epoch"
    let _ ← paymentU64ToI64 lastReorgFrom "last_reorg_from"
  | .recordVerifiedPayments orderId matchedPayments =>
    ensure (!matchedPayments.any (fun p => decide (p.orderId ≠ orderId)))
      (.invariantViolation "manual verify recorder received payment for a different order")

/-- The statements before the recompute. -/
def statements : RepositoryCall → List Statement
  | .commitScannedBatch batch =>
    .lockCursor batch.stream (.expects batch.workerId batch.expectedLastScannedBlock
        batch.expectedSeenKvReorgEpoch) ::
      batch.matchedPayments.map (fun p => .upsert batch.stream p)
  | .confirmObservedPayments batch => [.update (.confirm batch)]
  | .handleKvReorgEpoch stream epoch lastReorgFrom =>
    [.lockCursor stream (.newEpoch epoch), .update (.orphan stream lastReorgFrom),
      .moveCursor (.rewind stream epoch lastReorgFrom)]
  | .recordVerifiedPayments _ matchedPayments =>
    matchedPayments.map (fun p => .upsert ⟨p.chainId, p.tokenAddress⟩ p)

/-- The orders that are recomputed: those of the rows written, but for a manual
verification, which names its order. -/
def orderIds (affected : List Uuid) : RepositoryCall → List Uuid
  | .recordVerifiedPayments orderId _ => sortedSet [orderId]
  | _ => sortedSet affected

/-- The statements after it. -/
def afterwards : RepositoryCall → List CursorWrite
  | .commitScannedBatch batch => [.advance batch.stream batch.completeToBlock]
  | _ => []

end RepositoryCall

/-- **Where a transaction stands.** -/
inductive TxPc
  /-- Before the recompute, with the statements that are left. -/
  | running (todo : List Statement)
  /-- In an `UPDATE payments`, with the rows it has yet to lock. -/
  | updating (u : PaymentUpdate) (keys : List (ℕ × TxHash × ℕ)) (todo : List Statement)
  /-- In the `SELECT` of the recompute: what it reads, the orders it has locked
  and those it has yet to lock. -/
  | summing (snapshot : PaymentDb) (locked pending : List Uuid)
  /-- In the loop of `UPDATE orders`, with the rows left to write. -/
  | storing (now : Timestamp) (rows : List OrderRecord)
  | finishing (now : Timestamp) (todo : List CursorWrite)

/-- **A transaction under way**, with the rows it has written. -/
structure TxState where
  call : RepositoryCall
  pc : TxPc
  payments : List PaymentRecord
  orders : List OrderRecord
  cursors : List ChainCursor
  affected : List Uuid

namespace TxState

/-- A transaction that has just begun. -/
def started (call : RepositoryCall) : TxState where
  call := call
  pc := .running call.statements
  payments := []
  orders := []
  cursors := []
  affected := []

/-- **What the transaction sees**: what is committed, under its own writes. -/
def view (x : TxState) (db : PaymentDb) : PaymentDb :=
  { db with
    payments := overlay PaymentRecord.key db.payments x.payments
    orders := replaceRows OrderRecord.id db.orders x.orders
    cursors := replaceRows ChainCursor.stream db.cursors x.cursors }

/-- The transaction with one more payment written. -/
def write (x : TxState) (record : PaymentRecord) : TxState :=
  { x with
    payments := upsertBy PaymentRecord.key record x.payments
    affected := record.orderId :: x.affected }

/-- The transaction at its next statement. -/
def goto (x : TxState) (pc : TxPc) : TxState := { x with pc := pc }

@[simp] theorem goto_orders (x : TxState) (pc : TxPc) : (x.goto pc).orders = x.orders := rfl

@[simp] theorem goto_payments (x : TxState) (pc : TxPc) : (x.goto pc).payments = x.payments := rfl

end TxState

/-- What comes of the next step of a transaction. -/
inductive TxResult
  /-- Another transaction holds the lock. -/
  | waits
  | rollsBack
  /-- It goes on, with one more lock or none. -/
  | goes (lock : Option LockedRow) (x : TxState)
  | commits (now : Timestamp)

section statements

variable (db : PaymentDb) (isFree : LockedRow → Bool) (now : Timestamp) (row : ℕ) (x : TxState)

/-- A statement before the recompute begins. -/
def runStatement (todo : List Statement) : Statement → TxResult
  | .lockCursor stream check =>
    if isFree (.cursor stream) then
      match db.cursor? stream with
      | none => .rollsBack
      | some c =>
        match check.verdict c with
        | .proceeds => .goes (some (.cursor stream)) (x.goto (.running todo))
        | .ends => .goes (some (.cursor stream)) (x.goto (.finishing now []))
        | .fails => .rollsBack
    else .waits
  | .upsert stream payment =>
    let key := (stream.chainId, payment.txHash, payment.logIndex)
    if isFree (.payment key) then
      match upsertMatchedPaymentTx (x.view db) stream payment with
      | .error _ => .rollsBack
      | .ok (record, _) =>
        .goes (some (.payment key)) ((x.write record).goto (.running todo))
    else .waits
  | .update u =>
    let rows := (x.view db).payments.filter u.selects
    .goes none (x.goto (.updating u (rows.map PaymentRecord.key) todo))
  | .moveCursor write =>
    match (x.view db).cursor? write.stream with
    | none => .goes none (x.goto (.running todo))
    | some c => .goes none ({ x with
        cursors := upsertBy ChainCursor.stream (write.row c) x.cursors }.goto (.running todo))

/-- A row of an `UPDATE payments`: it is locked, read again, and written if it is
still selected. -/
def updateRow (u : PaymentUpdate) (key : ℕ × TxHash × ℕ) (keys : List (ℕ × TxHash × ℕ))
    (todo : List Statement) : TxResult :=
  if isFree (.payment key) then
    match (x.view db).payments.find? (fun p => decide (p.key = key)) with
    | none => .goes none (x.goto (.updating u keys todo))
    | some p =>
      if u.selects p then
        .goes (some (.payment key)) ((x.write (u.row p)).goto (.updating u keys todo))
      else .goes none (x.goto (.updating u keys todo))
  else .waits

/-- The recompute begins: its `SELECT` takes its snapshot. -/
def beginRecompute : TxResult :=
  let ids := x.call.orderIds x.affected
  if ids.isEmpty then .goes none (x.goto (.finishing now x.call.afterwards))
  else .goes none (x.goto (.summing (x.view db) [] ids))

/-- The `SELECT` has its locks: the orders are as they are now, the sums are over
the snapshot. -/
def finishSelect (snapshot : PaymentDb) (locked : List Uuid) : TxResult :=
  let rows := (x.view db).orders.filter (fun o => decide (o.id ∈ locked))
  if rows.length ≠ locked.length then .rollsBack
  else
    let rows := rows.map (recomputedOrder snapshot.payments snapshot.overrides now)
    if rows.all (fun o => decide (o.paidAmountRaw < numeric78Bound))
      then .goes none (x.goto (.storing now rows))
    else .rollsBack

/-- **The next step of a transaction**, at the clock `now`; in an `UPDATE payments`
it is the turn of the row numbered `row`. -/
def txStep : TxResult :=
  match x.pc with
  | .running (st :: todo) => runStatement db isFree now x todo st
  | .running [] => beginRecompute db now x
  | .updating _ [] todo => .goes none (x.goto (.running todo))
  | .updating u (key :: keys) todo =>
    match (key :: keys)[row]? with
    | none => .waits
    | some k => updateRow db isFree x u k ((key :: keys).eraseIdx row) todo
  | .summing snapshot locked (id :: pending) =>
    if isFree (.order id)
      then .goes (some (.order id)) (x.goto (.summing snapshot (locked ++ [id]) pending))
    else .waits
  | .summing snapshot locked [] => finishSelect db now x snapshot locked
  | .storing now' (r :: rows) =>
    .goes none ({ x with orders := upsertBy OrderRecord.id r x.orders }.goto (.storing now' rows))
  | .storing now' [] => .goes none (x.goto (.finishing now' x.call.afterwards))
  | .finishing now' (write :: todo) =>
    match (x.view db).cursor? write.stream with
    | none => .goes none (x.goto (.finishing now' todo))
    | some c => .goes none ({ x with
        cursors := upsertBy ChainCursor.stream (write.row c) x.cursors }.goto (.finishing now' todo))
  | .finishing now' [] => .commits now'

end statements

/-! ## The system -/

/-- **The state of the database and its transactions.** -/
structure TxSystem where
  /-- What is committed. -/
  db : PaymentDb
  tx : ℕ → Option TxState
  locks : RowLocks LockedRow
  /-- When the last committed recompute of an order read the clock. Nothing reads
  it. -/
  recomputedAt : Uuid → Option Timestamp

/-- One step of the system. -/
inductive TxAction
  | begin (t : ℕ) (call : RepositoryCall)
  /-- The transaction takes its next step, with the clock and the choice of a row
  if it needs them. -/
  | advance (t : ℕ) (now : Timestamp) (row : ℕ)
  /-- The connection is lost, or the database breaks a deadlock. -/
  | abort (t : ℕ)

namespace TxSystem

/-- A transaction ends, and gives its locks back. -/
def ended (s : TxSystem) (t : ℕ) : TxSystem :=
  { s with tx := Function.update s.tx t none, locks := s.locks.release t }

/-- A transaction goes on. -/
def moved (s : TxSystem) (t : ℕ) (lock : Option LockedRow) (x : TxState) : TxSystem :=
  { s with
    tx := Function.update s.tx t (some x)
    locks := lock.elim s.locks (fun l => s.locks.acquire t l) }

/-- A transaction commits what it has written. -/
def committed (s : TxSystem) (t : ℕ) (x : TxState) (now : Timestamp) : TxSystem :=
  { s.ended t with
    db := x.view s.db
    recomputedAt := fun id => if id ∈ x.orders.map OrderRecord.id then some now
      else s.recomputedAt id }

/-- **One step of the system.** -/
def step (s : TxSystem) : TxAction → Option TxSystem
  | .begin t call =>
    match s.tx t with
    | some _ => none
    | none =>
      match call.check with
      | .error _ => none
      | .ok () => some { s with tx := Function.update s.tx t (some (.started call)) }
  | .advance t now row =>
    match s.tx t with
    | none => none
    | some x =>
      match txStep s.db (fun l => s.locks.isFree t l) now row x with
      | .waits => none
      | .rollsBack => some (s.ended t)
      | .goes lock x' => some (s.moved t lock x')
      | .commits now' => some (s.committed t x now')
  | .abort t => some (s.ended t)

end TxSystem
