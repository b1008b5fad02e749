import Pay3.PaymentTables

/-!
# The payment repositories

The transactions that move the scan cursor, store matched payments, confirm
or orphan them, and recompute the orders they belong to. Each is a function
of the database in `Except`: an error rolls the transaction back.

Every one of them changes payments only through one of three statements
(an upsert, the confirming update, the orphaning update) and orders only
through `recomputeOrdersInTx`. The lemmas below say, for each transaction,
which of these it ran and on what.
-/

/-- `ScanCursorLease`. -/
structure ScanCursorLease where
  stream : StreamId
  leaseOwner : String
  leaseUntil : Timestamp
  lastScannedBlock : ℕ
  seenKvReorgEpoch : ℕ
  deriving DecidableEq

/-- `ScanCursorState`. -/
structure ScanCursorState where
  lastScannedBlock : ℕ
  seenKvReorgEpoch : ℕ
  deriving DecidableEq

/-- `CommitScannedBatch`, less the two fields no function reads. -/
structure CommitScannedBatch where
  stream : StreamId
  workerId : String
  expectedLastScannedBlock : ℕ
  completeToBlock : ℕ
  expectedSeenKvReorgEpoch : ℕ
  matchedPayments : List MatchedPaymentInput
  deriving DecidableEq

/-- `PaymentConfirmationCandidate`. -/
structure PaymentConfirmationCandidate where
  paymentId : Uuid
  orderId : Uuid
  block : ChainBlockRef
  confirmations : ℕ
  deriving DecidableEq

/-- `ConfirmObservedPaymentsBatch`. -/
structure ConfirmObservedPaymentsBatch where
  stream : StreamId
  paymentIds : List Uuid
  canonicalHead : ChainBlockRef
  deriving DecidableEq

/-! ## Recomputing orders -/

/-- `recompute_status_from_totals`. -/
def recomputeStatusFromTotals (expected confirmedOnTime nonOrphanedOnTime : ℕ)
    (isExpired : Bool) : OrderStatus :=
  if expected ≤ confirmedOnTime then .paid
  else if expected ≤ nonOrphanedOnTime then .confirming
  else if 0 < nonOrphanedOnTime ∧ isExpired = false then .partial_
  else if isExpired then .expired
  else .pending

/-- An order is marked paid when its confirmed total reaches what is expected,
and only then. -/
theorem recomputeStatusFromTotals_eq_paid {expected confirmed nonOrphaned : ℕ} {isExpired : Bool} :
    recomputeStatusFromTotals expected confirmed nonOrphaned isExpired = .paid
      ↔ expected ≤ confirmed := by
  unfold recomputeStatusFromTotals
  by_cases h : expected ≤ confirmed
  · simp [h]
  · rw [if_neg h]
    constructor
    · intro hp
      split at hp
      · cases hp
      · split at hp
        · cases hp
        · split at hp <;> cases hp
    · exact fun hle => absurd hle h

/-- **The row one recompute writes** for an order, from the payments and
overrides it has read. -/
def recomputedOrder (payments : List PaymentRecord) (overrides : List OrderPaymentOverride)
    (now : Timestamp) (o : OrderRecord) : OrderRecord :=
  let accepted := acceptedProblemPayment overrides o.id
  let confirmedAccepted := confirmedOnTimeTotal payments o.id + accepted
  let nonOrphanedAccepted := nonOrphanedOnTimeTotal payments o.id + accepted
  { o with
    paidAmountRaw := confirmedAccepted
    status := recomputeStatusFromTotals o.expectedAmountRaw.toNat confirmedAccepted
      nonOrphanedAccepted (decide (o.expiresAt ≤ now)) }

@[simp] theorem recomputedOrder_id (payments : List PaymentRecord)
    (overrides : List OrderPaymentOverride) (now : Timestamp) (o : OrderRecord) :
    (recomputedOrder payments overrides now o).id = o.id := rfl

/-- What a recompute writes depends on the totals. -/
theorem recomputedOrder_congr {payments payments' : List PaymentRecord} {o : OrderRecord}
    (h : SameTotals payments payments' o.id) (overrides : List OrderPaymentOverride)
    (now : Timestamp) :
    recomputedOrder payments overrides now o = recomputedOrder payments' overrides now o := by
  unfold recomputedOrder
  rw [h.confirmedOnTime, h.nonOrphanedOnTime]

/-- A recompute of a recomputed row reads nothing the first one wrote. -/
theorem recomputedOrder_recomputedOrder (payments payments' : List PaymentRecord)
    (overrides : List OrderPaymentOverride) (now now' : Timestamp) (o : OrderRecord) :
    recomputedOrder payments overrides now (recomputedOrder payments' overrides now' o)
      = recomputedOrder payments overrides now o := rfl

/-- The orders named are rewritten from the tables as they are. -/
def PaymentDb.recomputed (db : PaymentDb) (now : Timestamp) (orderIds : List Uuid) : PaymentDb :=
  { db with
    orders := updateWhere (fun o => decide (o.id ∈ orderIds))
      (recomputedOrder db.payments db.overrides now) db.orders }

/-- **`recompute_orders_in_tx`**, over a set of order ids. -/
def recomputeOrdersInTx (db : PaymentDb) (now : Timestamp) (orderIds : List Uuid) :
    Except RepositoryError PaymentDb :=
  if orderIds.isEmpty then .ok db
  else do
    let rows := db.orders.filter (fun o => decide (o.id ∈ orderIds))
    ensure (decide (rows.length = orderIds.length)) (.orderNotFoundForRecompute orderIds)
    ensure (rows.all (fun o => decide
        ((recomputedOrder db.payments db.overrides now o).paidAmountRaw < numeric78Bound)))
      (.database (.numericFieldOverflow "paid_amount_raw"))
    pure (db.recomputed now orderIds)

/-- The amounts a recompute writes fit their column. -/
def PaymentDb.RecomputeFits (db : PaymentDb) (now : Timestamp) (orderIds : List Uuid) : Prop :=
  ∀ o ∈ db.orders, o.id ∈ orderIds →
    (recomputedOrder db.payments db.overrides now o).paidAmountRaw < numeric78Bound

/-- A recompute rewrites the orders it names, with amounts that fit, and
nothing else. -/
theorem recomputeOrdersInTx_eq_ok {db db' : PaymentDb} {now : Timestamp} {orderIds : List Uuid}
    (h : recomputeOrdersInTx db now orderIds = .ok db') :
    db.RecomputeFits now orderIds ∧ db' = db.recomputed now orderIds := by
  unfold recomputeOrdersInTx at h
  by_cases he : orderIds.isEmpty = true
  · rw [if_pos he] at h
    have hnil : orderIds = [] := List.isEmpty_iff.mp he
    have hsame : updateWhere (fun o => decide (o.id ∈ orderIds))
        (recomputedOrder db.payments db.overrides now) db.orders = db.orders :=
      updateWhere_of_forall_false (fun o _ => by simp [hnil])
    refine ⟨fun o _ hid => absurd hid (by simp [hnil]), ?_⟩
    unfold PaymentDb.recomputed
    rw [hsame]
    exact (Except.ok.inj h).symm
  · rw [if_neg he] at h
    obtain ⟨-, h⟩ := ensure_bind_eq_ok.mp h
    obtain ⟨hfits, h⟩ := ensure_bind_eq_ok.mp h
    refine ⟨fun o ho hid => ?_, (Except.pure_eq_ok.mp h).symm⟩
    exact of_decide_eq_true (List.all_eq_true.mp hfits o
      (List.mem_filter.mpr ⟨ho, decide_eq_true hid⟩))

section recomputed

variable (db : PaymentDb) (now : Timestamp) (orderIds : List Uuid)

@[simp] theorem PaymentDb.recomputed_payments :
    (db.recomputed now orderIds).payments = db.payments := rfl

@[simp] theorem PaymentDb.recomputed_overrides :
    (db.recomputed now orderIds).overrides = db.overrides := rfl

@[simp] theorem PaymentDb.recomputed_windows :
    (db.recomputed now orderIds).windows = db.windows := rfl

@[simp] theorem PaymentDb.recomputed_cursors :
    (db.recomputed now orderIds).cursors = db.cursors := rfl

end recomputed

/-! ## Storing a matched payment -/

/-- The `CASE` of the upsert: when the payment came, by the window of the order
it is matched to. -/
def PaymentWindowRecord.matchStatus (w : PaymentWindowRecord) (blockNumber : ℕ)
    (blockTime : Timestamp) : PaymentMatchStatus :=
  if w.windowFromBlock.number ≤ blockNumber ∧ blockTime ≤ w.expiresAt then .onTime
  else if w.windowFromBlock.number ≤ blockNumber ∧ blockTime ≤ w.monitorUntil then .late
  else .outsideWindow

/-- The order a matched payment names, joined with its window, if the order is
of the stream and the payment went to its address. -/
def PaymentDb.matchedOrder (db : PaymentDb) (stream : StreamId) (payment : MatchedPaymentInput) :
    Option (OrderRecord × PaymentWindowRecord) := do
  let o ← db.orders.find? (fun o => decide (o.id = payment.orderId) &&
    decide (o.chainId = stream.chainId) && decide (o.tokenAddress = stream.tokenAddress) &&
    decide (o.receiveAddress = payment.toAddress))
  let w ← db.windows.find? (fun w => decide (w.orderId = o.id))
  pure (o, w)

/-- The row the upsert proposes: the columns of the order and its window
together with those of the payment. -/
def proposedRow (o : OrderRecord) (w : PaymentWindowRecord) (payment : MatchedPaymentInput) :
    PaymentRecord :=
  { payment with
    orderId := o.id
    childAccountId := o.childAccountId
    chainId := o.chainId
    tokenAddress := o.tokenAddress
    matchStatus := w.matchStatus payment.blockNumber payment.blockTime }

/-- The condition under which a conflicting row is overwritten. -/
def sameTarget (old row : PaymentRecord) : Bool :=
  decide (old.orderId = row.orderId) && decide (old.chainId = row.chainId) &&
    decide (old.tokenAddress = row.tokenAddress) && decide (old.toAddress = row.toAddress)

/-- **`upsert_matched_payment_tx`**: one `INSERT … ON CONFLICT DO UPDATE`. A row
that conflicts keeps its id, and everything else is overwritten. -/
def upsertMatchedPaymentTx (db : PaymentDb) (stream : StreamId) (payment : MatchedPaymentInput) :
    Except RepositoryError (PaymentRecord × PaymentDb) := do
  let _ ← paymentU64ToI64 stream.chainId "chain_id"
  let _ ← paymentU64ToI64 payment.logIndex "log_index"
  let _ ← paymentU64ToI64 payment.blockNumber "block_number"
  let _ ← paymentU64ToI64 payment.confirmations "confirmations"
  let stale : RepositoryError :=
    .stalePaymentMatch payment.orderId payment.txHash payment.logIndex
  let (o, w) ← orError (db.matchedOrder stream payment) stale
  let row := proposedRow o w payment
  ensure (decide (0 < row.amountRaw.toNat)) (.database (.checkViolation "payments_amount_raw_check"))
  match db.payments.find? (fun p => decide (p.key = row.key)) with
  | some old => do
    ensure (sameTarget old row) stale
    let new := { row with id := old.id }
    pure (new, { db with payments := upsertBy PaymentRecord.key new db.payments })
  | none => do
    ensure (!db.payments.any (fun p => decide (p.id = row.id)))
      (.database (.uniqueViolation "payments_pkey"))
    pure (row, { db with payments := upsertBy PaymentRecord.key row db.payments })

/-- **What one upsert does.** The row written has the columns of the order, its
window and the payment, under the id of the row it replaces, if there is one. -/
theorem upsertMatchedPaymentTx_eq_ok {db db' : PaymentDb} {stream : StreamId}
    {payment : MatchedPaymentInput} {record : PaymentRecord}
    (h : upsertMatchedPaymentTx db stream payment = .ok (record, db')) :
    ∃ o w, db.matchedOrder stream payment = some (o, w)
      ∧ db' = { db with payments := upsertBy PaymentRecord.key record db.payments }
      ∧ record = { proposedRow o w payment with id := record.id }
      ∧ ((∃ old, db.payments.find? (fun p => decide (p.key = record.key)) = some old
            ∧ sameTarget old record = true ∧ record.id = old.id)
          ∨ (db.payments.find? (fun p => decide (p.key = record.key)) = none
            ∧ record.id = payment.id ∧ ∀ p ∈ db.payments, p.id ≠ record.id)) := by
  unfold upsertMatchedPaymentTx at h
  obtain ⟨_, -, h⟩ := Except.bind_eq_ok.mp h
  obtain ⟨_, -, h⟩ := Except.bind_eq_ok.mp h
  obtain ⟨_, -, h⟩ := Except.bind_eq_ok.mp h
  obtain ⟨_, -, h⟩ := Except.bind_eq_ok.mp h
  obtain ⟨⟨o, w⟩, how, h⟩ := Except.bind_eq_ok.mp h
  obtain ⟨-, h⟩ := ensure_bind_eq_ok.mp h
  refine ⟨o, w, orError_eq_ok.mp how, ?_⟩
  cases hfind : db.payments.find? (fun p => decide (p.key = (proposedRow o w payment).key)) with
  | some old =>
    rw [hfind] at h
    obtain ⟨hsame, h⟩ := ensure_bind_eq_ok.mp h
    obtain ⟨rfl, rfl⟩ := Prod.mk.inj (Except.pure_eq_ok.mp h)
    exact ⟨rfl, rfl, Or.inl ⟨old, hfind, hsame, rfl⟩⟩
  | none =>
    rw [hfind] at h
    obtain ⟨hid, h⟩ := ensure_bind_eq_ok.mp h
    obtain ⟨rfl, rfl⟩ := Prod.mk.inj (Except.pure_eq_ok.mp h)
    exact ⟨rfl, rfl, Or.inr ⟨hfind, rfl, by simpa using hid⟩⟩

/-- The order a payment is matched to is the one it names, of the stream, at
the address the payment went to. -/
theorem PaymentDb.matchedOrder_eq_some {db : PaymentDb} {stream : StreamId}
    {payment : MatchedPaymentInput} {o : OrderRecord} {w : PaymentWindowRecord}
    (h : db.matchedOrder stream payment = some (o, w)) :
    o ∈ db.orders ∧ o.id = payment.orderId ∧ o.chainId = stream.chainId
      ∧ o.tokenAddress = stream.tokenAddress ∧ o.receiveAddress = payment.toAddress
      ∧ w ∈ db.windows ∧ w.orderId = o.id := by
  unfold PaymentDb.matchedOrder at h
  obtain ⟨o', ho, h⟩ := Option.bind_eq_some_iff.mp h
  obtain ⟨w', hw, h⟩ := Option.bind_eq_some_iff.mp h
  obtain ⟨rfl, rfl⟩ := Prod.mk.inj (Option.some.inj h)
  have hcond := List.find?_some ho
  simp only [Bool.and_eq_true, decide_eq_true_eq] at hcond
  obtain ⟨⟨⟨hid, hchain⟩, htoken⟩, hto⟩ := hcond
  exact ⟨List.mem_of_find?_eq_some ho, hid, hchain, htoken, hto, mem_of_find?_key hw⟩

/-- The loop over the matched payments of a transaction; it returns the rows
written, in order. -/
def upsertMatchedPayments (db : PaymentDb) :
    List (StreamId × MatchedPaymentInput) → Except RepositoryError (List PaymentRecord × PaymentDb)
  | [] => .ok ([], db)
  | (stream, payment) :: rest => do
    let (record, db₁) ← upsertMatchedPaymentTx db stream payment
    let (records, db₂) ← upsertMatchedPayments db₁ rest
    pure (record :: records, db₂)

/-- The first upsert of a transaction, and the rest. -/
theorem upsertMatchedPayments_cons_eq_ok {db db' : PaymentDb} {stream : StreamId}
    {payment : MatchedPaymentInput} {rest : List (StreamId × MatchedPaymentInput)}
    {records : List PaymentRecord}
    (h : upsertMatchedPayments db ((stream, payment) :: rest) = .ok (records, db')) :
    ∃ record tail db₁, upsertMatchedPaymentTx db stream payment = .ok (record, db₁)
      ∧ upsertMatchedPayments db₁ rest = .ok (tail, db') ∧ records = record :: tail := by
  unfold upsertMatchedPayments at h
  obtain ⟨⟨record, db₁⟩, h₁, h⟩ := Except.bind_eq_ok.mp h
  obtain ⟨⟨tail, db₂⟩, h₂, h⟩ := Except.bind_eq_ok.mp h
  obtain ⟨rfl, rfl⟩ := Prod.mk.inj (Except.pure_eq_ok.mp h)
  exact ⟨record, tail, db₁, h₁, h₂, rfl⟩

/-- Upserts leave every table alone but that of the payments. -/
theorem upsertMatchedPayments_frame {db db' : PaymentDb}
    {inputs : List (StreamId × MatchedPaymentInput)} {records : List PaymentRecord}
    (h : upsertMatchedPayments db inputs = .ok (records, db')) :
    db' = { db with payments := db'.payments } := by
  induction inputs generalizing db records with
  | nil =>
    obtain ⟨-, rfl⟩ := Prod.mk.inj (Except.ok.inj h)
    rfl
  | cons input rest ih =>
    obtain ⟨record, tail, db₁, h₁, h₂, -⟩ := upsertMatchedPayments_cons_eq_ok h
    obtain ⟨o, w, -, rfl, -⟩ := upsertMatchedPaymentTx_eq_ok h₁
    have hrest := ih h₂
    exact hrest

/-- The rows after a sequence of upserts: those before it, and rows with the
block and status of its inputs. -/
theorem mem_of_upserts {db db' : PaymentDb} {inputs : List (StreamId × MatchedPaymentInput)}
    {records : List PaymentRecord} {p : PaymentRecord}
    (h : upsertMatchedPayments db inputs = .ok (records, db')) (hp : p ∈ db'.payments) :
    p ∈ db.payments ∨ ∃ input ∈ inputs, p.block = input.2.block
      ∧ p.chainStatus = input.2.chainStatus := by
  induction inputs generalizing db records with
  | nil =>
    obtain ⟨-, rfl⟩ := Prod.mk.inj (Except.ok.inj h)
    exact Or.inl hp
  | cons input rest ih =>
    obtain ⟨record, tail, db₁, h₁, h₂, -⟩ := upsertMatchedPayments_cons_eq_ok h
    rcases ih h₂ with hp₁ | ⟨i, hi, hrow⟩
    · obtain ⟨o, w, -, hdb, hrecord, -⟩ := upsertMatchedPaymentTx_eq_ok h₁
      rw [hdb] at hp₁
      rcases mem_of_mem_upsertBy hp₁ with rfl | hold
      · refine Or.inr ⟨input, List.mem_cons_self, ?_, ?_⟩
        · rw [hrecord]
          rfl
        · rw [hrecord]
          rfl
      · exact Or.inl hold
    · exact Or.inr ⟨i, List.mem_cons_of_mem input hi, hrow⟩

/-! ## The scan cursor -/

/-- **`claim_scan_range`**: takes the lease of the stream's cursor, unless
another worker holds one that has not run out. -/
def claimScanRange (db : PaymentDb) (now : Timestamp) (workerId : String) (stream : StreamId)
    (leaseUntil : Timestamp) : Except RepositoryError (Option ScanCursorLease × PaymentDb) := do
  let _ ← paymentU64ToI64 stream.chainId "chain_id"
  let c ← orError (db.cursor? stream) (.cursorNotFound stream.chainId stream.tokenAddress)
  let heldByOtherLiveWorker :=
    c.leaseOwner.any (fun owner => owner != workerId) &&
      c.leaseUntil.any (fun untilTime => decide (now < untilTime))
  if heldByOtherLiveWorker then pure (none, db)
  else
    pure (some ⟨stream, workerId, leaseUntil, c.lastScannedBlock, c.seenKvReorgEpoch⟩,
      db.updateCursor stream (ChainCursor.leased workerId leaseUntil))

/-- `scan_cursor_state`. -/
def scanCursorState (db : PaymentDb) (stream : StreamId) :
    Except RepositoryError (Option ScanCursorState) := do
  let _ ← paymentU64ToI64 stream.chainId "chain_id"
  pure ((db.cursor? stream).map (fun c => ⟨c.lastScannedBlock, c.seenKvReorgEpoch⟩))

/-- **`commit_scanned_batch`**: stores what was matched in a range of blocks
and moves the cursor over it, if the cursor is still where the batch expects
it, in the epoch and under the lease the batch expects. -/
def commitScannedBatch (db : PaymentDb) (now : Timestamp) (batch : CommitScannedBatch) :
    Except RepositoryError (List PaymentRecord × PaymentDb) := do
  ensure (decide (batch.expectedLastScannedBlock ≤ batch.completeToBlock))
    (.invalidArgument "complete_to_block"
      "complete_to_block must not be lower than expected_last_scanned_block")
  let _ ← paymentU64ToI64 batch.stream.chainId "chain_id"
  let _ ← paymentU64ToI64 batch.expectedLastScannedBlock "expected_last_scanned_block"
  let _ ← paymentU64ToI64 batch.expectedSeenKvReorgEpoch "expected_seen_kv_reorg_epoch"
  let _ ← paymentU64ToI64 batch.completeToBlock "complete_to_block"
  let c ← orError (db.cursor? batch.stream)
    (.cursorNotFound batch.stream.chainId batch.stream.tokenAddress)
  ensure (decide (c.leaseOwner = some batch.workerId) &&
      decide (c.lastScannedBlock = batch.expectedLastScannedBlock) &&
      decide (c.seenKvReorgEpoch = batch.expectedSeenKvReorgEpoch))
    (.cursorCasMismatch batch.stream.chainId batch.stream.tokenAddress batch.workerId
      batch.expectedLastScannedBlock c.lastScannedBlock batch.expectedSeenKvReorgEpoch
      c.seenKvReorgEpoch c.leaseOwner)
  let (records, db₁) ← upsertMatchedPayments db
    (batch.matchedPayments.map (fun p => (batch.stream, p)))
  let db₂ ← recomputeOrdersInTx db₁ now (sortedSet (records.map PaymentRecord.orderId))
  pure (records, db₂.updateCursor batch.stream (ChainCursor.advanced batch.completeToBlock))

/-- **A committed batch** found the cursor as it expected it, and moved it. -/
theorem commitScannedBatch_eq_ok {db db' : PaymentDb} {now : Timestamp}
    {batch : CommitScannedBatch} {records : List PaymentRecord}
    (h : commitScannedBatch db now batch = .ok (records, db')) :
    ∃ c db₁, batch.expectedLastScannedBlock ≤ batch.completeToBlock
      ∧ db.cursor? batch.stream = some c
      ∧ c.leaseOwner = some batch.workerId
      ∧ c.lastScannedBlock = batch.expectedLastScannedBlock
      ∧ c.seenKvReorgEpoch = batch.expectedSeenKvReorgEpoch
      ∧ upsertMatchedPayments db (batch.matchedPayments.map (fun p => (batch.stream, p)))
          = .ok (records, db₁)
      ∧ db₁.RecomputeFits now (sortedSet (records.map PaymentRecord.orderId))
      ∧ db' = (db₁.recomputed now (sortedSet (records.map PaymentRecord.orderId))).updateCursor
          batch.stream (ChainCursor.advanced batch.completeToBlock) := by
  unfold commitScannedBatch at h
  obtain ⟨hle, h⟩ := ensure_bind_eq_ok.mp h
  obtain ⟨_, -, h⟩ := Except.bind_eq_ok.mp h
  obtain ⟨_, -, h⟩ := Except.bind_eq_ok.mp h
  obtain ⟨_, -, h⟩ := Except.bind_eq_ok.mp h
  obtain ⟨_, -, h⟩ := Except.bind_eq_ok.mp h
  obtain ⟨c, hc, h⟩ := Except.bind_eq_ok.mp h
  obtain ⟨hcas, h⟩ := ensure_bind_eq_ok.mp h
  obtain ⟨⟨rs, db₁⟩, hup, h⟩ := Except.bind_eq_ok.mp h
  obtain ⟨db₂, hre, h⟩ := Except.bind_eq_ok.mp h
  obtain ⟨rfl, rfl⟩ := Prod.mk.inj (Except.pure_eq_ok.mp h)
  simp only [Bool.and_eq_true, decide_eq_true_eq] at hcas
  obtain ⟨⟨howner, hlast⟩, hepoch⟩ := hcas
  obtain ⟨hfits, rfl⟩ := recomputeOrdersInTx_eq_ok hre
  exact ⟨c, db₁, of_decide_eq_true hle, orError_eq_ok.mp hc, howner, hlast, hepoch, hup, hfits,
    rfl⟩

/-- A claim that succeeds took the lease and read the cursor, or was turned
away and changed nothing. -/
theorem claimScanRange_eq_ok {db db' : PaymentDb} {now leaseUntil : Timestamp}
    {workerId : String} {stream : StreamId} {answer : Option ScanCursorLease}
    (h : claimScanRange db now workerId stream leaseUntil = .ok (answer, db')) :
    (answer = none ∧ db' = db)
      ∨ ∃ c, db.cursor? stream = some c
        ∧ answer = some ⟨stream, workerId, leaseUntil, c.lastScannedBlock, c.seenKvReorgEpoch⟩
        ∧ db' = db.updateCursor stream (ChainCursor.leased workerId leaseUntil) := by
  unfold claimScanRange at h
  obtain ⟨_, -, h⟩ := Except.bind_eq_ok.mp h
  obtain ⟨c, hc, h⟩ := Except.bind_eq_ok.mp h
  dsimp only at h
  split at h
  · obtain ⟨rfl, rfl⟩ := Prod.mk.inj (Except.pure_eq_ok.mp h)
    exact Or.inl ⟨rfl, rfl⟩
  · obtain ⟨rfl, rfl⟩ := Prod.mk.inj (Except.pure_eq_ok.mp h)
    exact Or.inr ⟨c, orError_eq_ok.mp hc, rfl, rfl⟩

/-! ## Confirming and orphaning -/

/-- The order `block_number, log_index, id`. -/
def PaymentRecord.leByBlock (a b : PaymentRecord) : Bool :=
  decide (a.blockNumber < b.blockNumber) ||
    (decide (a.blockNumber = b.blockNumber) &&
      (decide (a.logIndex < b.logIndex) ||
        (decide (a.logIndex = b.logIndex) && decide (a.id ≤ b.id))))

/-- The row a candidate is read from. -/
def PaymentRecord.candidate (p : PaymentRecord) : PaymentConfirmationCandidate :=
  ⟨p.id, p.orderId, p.block, p.confirmations⟩

/-- An observed payment of the stream. -/
def PaymentRecord.isObservedOf (p : PaymentRecord) (stream : StreamId) : Bool :=
  decide (p.chainId = stream.chainId) && decide (p.tokenAddress = stream.tokenAddress) &&
    decide (p.chainStatus = .observed)

/-- **`observed_payment_confirmation_candidates`**: the observed payments up to
a block, the lowest first. -/
def observedPaymentConfirmationCandidates (db : PaymentDb) (stream : StreamId)
    (maxBlockNumber limit : ℕ) : Except RepositoryError (List PaymentConfirmationCandidate) := do
  ensure (decide (limit ≠ 0)) (.invalidArgument "limit" "limit must be greater than zero")
  let _ ← paymentU64ToI64 stream.chainId "chain_id"
  let _ ← paymentU64ToI64 maxBlockNumber "max_block_number"
  let _ ← toI64 limit (.invalidArgument "limit" "limit exceeds PostgreSQL bigint range")
  let rows := db.payments.filter
    (fun p => p.isObservedOf stream && decide (p.blockNumber ≤ maxBlockNumber))
  pure (((rows.insertionSort (fun a b => a.leByBlock b = true)).take limit).map
    PaymentRecord.candidate)

/-- The rows the confirming update selects. -/
def confirmSelects (batch : ConfirmObservedPaymentsBatch) (p : PaymentRecord) : Bool :=
  decide (p.id ∈ batch.paymentIds) && p.isObservedOf batch.stream &&
    decide (p.blockNumber ≤ batch.canonicalHead.number)

/-- What the confirming update does to a row. -/
def confirmRow (head : ChainBlockRef) (p : PaymentRecord) : PaymentRecord :=
  { p with
    confirmations := max p.confirmations (head.number - p.blockNumber + 1)
    chainStatus := .confirmed }

/-- **`confirm_observed_payments`**: the rows are named by id alone. -/
def confirmObservedPayments (db : PaymentDb) (now : Timestamp)
    (batch : ConfirmObservedPaymentsBatch) :
    Except RepositoryError (List PaymentRecord × PaymentDb) :=
  if batch.paymentIds.isEmpty then .ok ([], db)
  else do
    let _ ← paymentU64ToI64 batch.stream.chainId "chain_id"
    let _ ← paymentU64ToI64 batch.canonicalHead.number "canonical_head.number"
    let records := ((db.payments.filter (confirmSelects batch)).map
      (confirmRow batch.canonicalHead)).insertionSort (fun a b => a.leByBlock b = true)
    let db₁ := { db with
      payments := updateWhere (confirmSelects batch) (confirmRow batch.canonicalHead) db.payments }
    let db₂ ← recomputeOrdersInTx db₁ now (sortedSet (records.map PaymentRecord.orderId))
    pure (records, db₂)

/-- The confirming update marks the rows it selects, and the orders of those
rows are recomputed. -/
theorem confirmObservedPayments_eq_ok {db db' : PaymentDb} {now : Timestamp}
    {batch : ConfirmObservedPaymentsBatch} {records : List PaymentRecord}
    (h : confirmObservedPayments db now batch = .ok (records, db')) :
    ∃ orderIds, (∀ p ∈ db.payments, confirmSelects batch p = true → p.orderId ∈ orderIds)
      ∧ PaymentDb.RecomputeFits { db with
          payments := updateWhere (confirmSelects batch) (confirmRow batch.canonicalHead)
            db.payments } now orderIds
      ∧ db' = PaymentDb.recomputed { db with
          payments := updateWhere (confirmSelects batch) (confirmRow batch.canonicalHead)
            db.payments } now orderIds := by
  unfold confirmObservedPayments at h
  by_cases he : batch.paymentIds.isEmpty = true
  · rw [if_pos he] at h
    obtain ⟨-, rfl⟩ := Prod.mk.inj (Except.ok.inj h)
    have hnone : ∀ p ∈ db.payments, confirmSelects batch p = false := by
      intro p _
      simp [confirmSelects, List.isEmpty_iff.mp he]
    refine ⟨[], fun p hp hsel => absurd hsel (by simp [hnone p hp]),
      fun o _ hid => absurd hid List.not_mem_nil, ?_⟩
    unfold PaymentDb.recomputed
    rw [updateWhere_of_forall_false hnone, updateWhere_of_forall_false (fun o _ => by simp)]
  · rw [if_neg he] at h
    obtain ⟨_, -, h⟩ := Except.bind_eq_ok.mp h
    obtain ⟨_, -, h⟩ := Except.bind_eq_ok.mp h
    obtain ⟨db₂, hre, h⟩ := Except.bind_eq_ok.mp h
    obtain ⟨rfl, rfl⟩ := Prod.mk.inj (Except.pure_eq_ok.mp h)
    refine ⟨_, fun p hp hsel => ?_, recomputeOrdersInTx_eq_ok hre⟩
    rw [mem_sortedSet, List.mem_map]
    refine ⟨confirmRow batch.canonicalHead p, ?_, rfl⟩
    rw [List.mem_insertionSort, List.mem_map]
    exact ⟨p, List.mem_filter.mpr ⟨hp, hsel⟩, rfl⟩

/-- The rows the orphaning update selects. -/
def orphanSelects (stream : StreamId) (lastReorgFrom : ℕ) (p : PaymentRecord) : Bool :=
  decide (p.chainId = stream.chainId) && decide (p.tokenAddress = stream.tokenAddress) &&
    decide (lastReorgFrom ≤ p.blockNumber) && !decide (p.chainStatus = .orphaned)

/-- What the orphaning update does to a row. -/
def orphanRow (p : PaymentRecord) : PaymentRecord := { p with chainStatus := .orphaned }

/-- **`handle_kv_reorg_epoch`**: orphans the payments from a block on and takes
the cursor back below it, once for each epoch. -/
def handleKvReorgEpoch (db : PaymentDb) (now : Timestamp) (stream : StreamId)
    (epoch lastReorgFrom : ℕ) : Except RepositoryError PaymentDb := do
  let _ ← paymentU64ToI64 stream.chainId "chain_id"
  let _ ← paymentU64ToI64 epoch "epoch"
  let _ ← paymentU64ToI64 lastReorgFrom "last_reorg_from"
  let c ← orError (db.cursor? stream) (.cursorNotFound stream.chainId stream.tokenAddress)
  if epoch ≤ c.seenKvReorgEpoch then pure db
  else do
    let affected := (db.payments.filter (orphanSelects stream lastReorgFrom)).map
      PaymentRecord.orderId
    let db₁ := { db with
      payments := updateWhere (orphanSelects stream lastReorgFrom) orphanRow db.payments }
    let db₂ := db₁.updateCursor stream (ChainCursor.rewound epoch lastReorgFrom)
    recomputeOrdersInTx db₂ now (sortedSet affected)

/-- **A rewind.** An epoch already seen changes nothing; a new one orphans the
selected payments, recomputes their orders and takes the cursor back. -/
theorem handleKvReorgEpoch_eq_ok {db db' : PaymentDb} {now : Timestamp} {stream : StreamId}
    {epoch lastReorgFrom : ℕ} (h : handleKvReorgEpoch db now stream epoch lastReorgFrom = .ok db') :
    ∃ c, db.cursor? stream = some c
      ∧ ((epoch ≤ c.seenKvReorgEpoch ∧ db' = db)
        ∨ (c.seenKvReorgEpoch < epoch ∧ ∃ orderIds,
          (∀ p ∈ db.payments, orphanSelects stream lastReorgFrom p = true → p.orderId ∈ orderIds)
          ∧ PaymentDb.RecomputeFits (PaymentDb.updateCursor { db with
              payments := updateWhere (orphanSelects stream lastReorgFrom) orphanRow db.payments }
              stream (ChainCursor.rewound epoch lastReorgFrom)) now orderIds
          ∧ db' = PaymentDb.recomputed (PaymentDb.updateCursor { db with
              payments := updateWhere (orphanSelects stream lastReorgFrom) orphanRow db.payments }
              stream (ChainCursor.rewound epoch lastReorgFrom)) now orderIds)) := by
  unfold handleKvReorgEpoch at h
  obtain ⟨_, -, h⟩ := Except.bind_eq_ok.mp h
  obtain ⟨_, -, h⟩ := Except.bind_eq_ok.mp h
  obtain ⟨_, -, h⟩ := Except.bind_eq_ok.mp h
  obtain ⟨c, hc, h⟩ := Except.bind_eq_ok.mp h
  refine ⟨c, orError_eq_ok.mp hc, ?_⟩
  by_cases hseen : epoch ≤ c.seenKvReorgEpoch
  · rw [if_pos hseen] at h
    exact Or.inl ⟨hseen, (Except.pure_eq_ok.mp h).symm⟩
  · rw [if_neg hseen] at h
    refine Or.inr ⟨Nat.lt_of_not_le hseen, _, fun p hp hsel => ?_, recomputeOrdersInTx_eq_ok h⟩
    rw [mem_sortedSet]
    exact List.mem_map_of_mem (List.mem_filter.mpr ⟨hp, hsel⟩)

/-! ## Manual verification, acceptance, expiry -/

/-- `payment_records_for_order_tx`. -/
def paymentRecordsForOrderTx (db : PaymentDb) (orderId : Uuid) : List PaymentRecord :=
  (db.payments.filter (fun p => decide (p.orderId = orderId))).insertionSort
    (fun a b => a.blockNumber < b.blockNumber ∨
      (a.blockNumber = b.blockNumber ∧ a.logIndex ≤ b.logIndex))

/-- **`record_verified_payments`**. -/
def recordVerifiedPayments (db : PaymentDb) (now : Timestamp) (orderId : Uuid)
    (matchedPayments : List MatchedPaymentInput) :
    Except RepositoryError (List PaymentRecord × PaymentDb) := do
  ensure (!matchedPayments.any (fun p => decide (p.orderId ≠ orderId)))
    (.invariantViolation "manual verify recorder received payment for a different order")
  let (_, db₁) ← upsertMatchedPayments db
    (matchedPayments.map (fun p => (⟨p.chainId, p.tokenAddress⟩, p)))
  let db₂ ← recomputeOrdersInTx db₁ now (sortedSet [orderId])
  pure (paymentRecordsForOrderTx db₂ orderId, db₂)

/-- Recorded payments were upserted, and their order was recomputed. -/
theorem recordVerifiedPayments_eq_ok {db db' : PaymentDb} {now : Timestamp} {orderId : Uuid}
    {matchedPayments : List MatchedPaymentInput} {records : List PaymentRecord}
    (h : recordVerifiedPayments db now orderId matchedPayments = .ok (records, db')) :
    (∀ p ∈ matchedPayments, p.orderId = orderId)
      ∧ ∃ written db₁, upsertMatchedPayments db
          (matchedPayments.map (fun p => (⟨p.chainId, p.tokenAddress⟩, p))) = .ok (written, db₁)
        ∧ db₁.RecomputeFits now (sortedSet [orderId])
        ∧ db' = db₁.recomputed now (sortedSet [orderId]) := by
  unfold recordVerifiedPayments at h
  obtain ⟨hall, h⟩ := ensure_bind_eq_ok.mp h
  obtain ⟨⟨written, db₁⟩, hup, h⟩ := Except.bind_eq_ok.mp h
  obtain ⟨db₂, hre, h⟩ := Except.bind_eq_ok.mp h
  obtain ⟨-, rfl⟩ := Prod.mk.inj (Except.pure_eq_ok.mp h)
  exact ⟨by simpa using hall, written, db₁, hup, recomputeOrdersInTx_eq_ok hre⟩

/-- A whitespace character, as `str::trim` strips it. -/
def isRustWhitespace (c : Char) : Bool :=
  let n := c.toNat
  (decide (9 ≤ n) && decide (n ≤ 13)) || n == 32 || n == 133 || n == 160 || n == 5760 ||
    (decide (8192 ≤ n) && decide (n ≤ 8202)) || n == 8232 || n == 8233 || n == 8239 ||
    n == 8287 || n == 12288

/-- `str::trim`. -/
def trimText (s : String) : String :=
  String.ofList (((s.toList.dropWhile isRustWhitespace).reverse.dropWhile
    isRustWhitespace).reverse)

/-- `big_decimal_to_raw_amount`: the stored number, if it is a 256-bit one. -/
def bigDecimalToRawAmount (amount : ℕ) : Except RepositoryError RawAmount :=
  if amount < 2 ^ 256 then .ok (BitVec.ofNat 256 amount)
  else .error (.invariantViolation
    ("invalid persisted raw amount " ++ toString amount ++ ": amount overflows uint256"))

/-- A number that fits is read back as it is. -/
theorem bigDecimalToRawAmount_toNat {amount : ℕ} {raw : RawAmount}
    (h : bigDecimalToRawAmount amount = .ok raw) : raw.toNat = amount := by
  unfold bigDecimalToRawAmount at h
  by_cases hlt : amount < 2 ^ 256
  · rw [if_pos hlt] at h
    rw [← Except.ok.inj h, BitVec.toNat_ofNat, Nat.mod_eq_of_lt hlt]
  · rw [if_neg hlt] at h
    cases h

/-- **`accept_problem_payment_for_owner`**: records that the confirmed late
payments of an order count for it. The answer is `none` when the caller has no
such order. -/
def acceptProblemPaymentForOwner (db : PaymentDb) (now : Timestamp) (id : Uuid)
    (ownerSub acceptedBy : String) (reason : Option String) :
    Except RepositoryError (Option OrderRecord × PaymentDb) := do
  let acceptedBy := trimText acceptedBy
  ensure (decide (acceptedBy ≠ "")) (.invalidArgument "accepted_by" "must not be empty")
  let reason := (reason.map trimText).filter (fun value => decide (value ≠ ""))
  match db.orders.find? (fun o => decide (o.id = id) && decide (o.ownerSub = ownerSub)) with
  | none => pure (none, db)
  | some o => do
    let confirmedOnTime ← bigDecimalToRawAmount (confirmedOnTimeTotal db.payments id)
    let confirmedProblem ← bigDecimalToRawAmount (confirmedProblemTotal db.payments id)
    ensure (decide (confirmedProblem.toNat ≠ 0))
      (.invalidArgument "problem_payment"
        "no confirmed late or outside_window payment is available to accept")
    ensure (decide (confirmedOnTime.toNat + confirmedProblem.toNat < 2 ^ 256))
      (.invariantViolation "accepted payment total overflow")
    ensure (decide (o.expectedAmountRaw.toNat ≤ confirmedOnTime.toNat + confirmedProblem.toNat))
      (.invalidArgument "problem_payment"
        "confirmed accepted payment total is lower than expected order amount")
    let db₁ := { db with
      overrides := upsertBy OrderPaymentOverride.orderId
        ⟨id, confirmedProblem, acceptedBy, reason⟩ db.overrides }
    let db₂ ← recomputeOrdersInTx db₁ now (sortedSet [id])
    let view := db₂.orders.find? (fun o => decide (o.id = id) && decide (o.ownerSub = ownerSub))
    let _ ← bigDecimalToRawAmount ((view.map OrderRecord.paidAmountRaw).getD 0)
    pure (view, db₂)

/-- **`recompute_expired_open_orders`**: recomputes the orders that are still
open past their expiry, the earliest first. -/
def recomputeExpiredOpenOrders (db : PaymentDb) (databaseNow now : Timestamp) (limit : ℕ) :
    Except RepositoryError (ℕ × PaymentDb) :=
  if limit = 0 then .ok (0, db)
  else do
    let rows := ((db.orders.filter (fun o =>
        (decide (o.status = .pending) || decide (o.status = .partial_)) &&
          decide (o.expiresAt ≤ databaseNow))).insertionSort
      (fun a b => a.expiresAt < b.expiresAt ∨ (a.expiresAt = b.expiresAt ∧ a.id ≤ b.id))).take limit
    let orderIds := sortedSet (rows.map OrderRecord.id)
    let db₁ ← recomputeOrdersInTx db now orderIds
    pure (orderIds.length, db₁)

/-- An acceptance that finds the order records its confirmed problem total as
the override, and recomputes it. -/
theorem acceptProblemPaymentForOwner_eq_ok {db db' : PaymentDb} {now : Timestamp} {id : Uuid}
    {ownerSub acceptedBy : String} {reason : Option String} {answer : Option OrderRecord}
    (h : acceptProblemPaymentForOwner db now id ownerSub acceptedBy reason = .ok (answer, db')) :
    (answer = none ∧ db' = db) ∨ ∃ ov : OrderPaymentOverride, ov.orderId = id
      ∧ (∃ o ∈ db.orders, o.id = id ∧ o.ownerSub = ownerSub)
      ∧ (∀ o ∈ answer, o ∈ db'.orders ∧ o.id = id)
      ∧ ov.acceptedProblemPaymentRaw.toNat = confirmedProblemTotal db.payments id
      ∧ PaymentDb.RecomputeFits { db with
          overrides := upsertBy OrderPaymentOverride.orderId ov db.overrides } now
          (sortedSet [id])
      ∧ db' = PaymentDb.recomputed { db with
          overrides := upsertBy OrderPaymentOverride.orderId ov db.overrides } now
          (sortedSet [id]) := by
  unfold acceptProblemPaymentForOwner at h
  obtain ⟨-, h⟩ := ensure_bind_eq_ok.mp h
  dsimp only at h
  split at h
  · obtain ⟨rfl, rfl⟩ := Prod.mk.inj (Except.pure_eq_ok.mp h)
    exact Or.inl ⟨rfl, rfl⟩
  · rename_i o ho
    have hcond := List.find?_some ho
    simp only [Bool.and_eq_true, decide_eq_true_eq] at hcond
    obtain ⟨onTime, -, h⟩ := Except.bind_eq_ok.mp h
    obtain ⟨problem, hproblem, h⟩ := Except.bind_eq_ok.mp h
    obtain ⟨-, h⟩ := ensure_bind_eq_ok.mp h
    obtain ⟨-, h⟩ := ensure_bind_eq_ok.mp h
    obtain ⟨-, h⟩ := ensure_bind_eq_ok.mp h
    obtain ⟨db₂, hre, h⟩ := Except.bind_eq_ok.mp h
    obtain ⟨_, -, h⟩ := Except.bind_eq_ok.mp h
    obtain ⟨rfl, rfl⟩ := Prod.mk.inj (Except.pure_eq_ok.mp h)
    have hanswer : ∀ v ∈ db₂.orders.find? (fun o => decide (o.id = id)
        && decide (o.ownerSub = ownerSub)), v ∈ db₂.orders ∧ v.id = id := by
      intro v hv
      have hview := List.find?_some hv
      simp only [Bool.and_eq_true, decide_eq_true_eq] at hview
      exact ⟨List.mem_of_find?_eq_some hv, hview.1⟩
    exact Or.inr ⟨_, rfl, ⟨o, List.mem_of_find?_eq_some ho, hcond⟩, hanswer,
      bigDecimalToRawAmount_toNat hproblem, recomputeOrdersInTx_eq_ok hre⟩

/-- The expiry job recomputes some orders. -/
theorem recomputeExpiredOpenOrders_eq_ok {db db' : PaymentDb} {databaseNow now : Timestamp}
    {limit count : ℕ} (h : recomputeExpiredOpenOrders db databaseNow now limit = .ok (count, db')) :
    ∃ orderIds, db.RecomputeFits now orderIds ∧ db' = db.recomputed now orderIds := by
  unfold recomputeExpiredOpenOrders at h
  by_cases hl : limit = 0
  · rw [if_pos hl] at h
    obtain ⟨-, rfl⟩ := Prod.mk.inj (Except.ok.inj h)
    refine ⟨[], fun o _ hid => absurd hid List.not_mem_nil, ?_⟩
    unfold PaymentDb.recomputed
    rw [updateWhere_of_forall_false (fun o _ => by simp)]
  · rw [if_neg hl] at h
    obtain ⟨db₁, hre, h⟩ := Except.bind_eq_ok.mp h
    obtain ⟨-, rfl⟩ := Prod.mk.inj (Except.pure_eq_ok.mp h)
    exact ⟨_, recomputeOrdersInTx_eq_ok hre⟩
