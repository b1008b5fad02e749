import Pay3.Domain
import Pay3.Tables
import Mathlib.Algebra.Order.BigOperators.Group.List
import Mathlib.Algebra.Order.Ring.Nat

/-!
# The payment tables

The rows of `orders`, `payment_windows`, `order_payment_overrides`, `payments`
and `chain_cursors`, with the columns the payment repositories read or write.
A payment is one `Transfer` event, named by `(chain_id, tx_hash, log_index)`.

What an order has been paid is never stored payment by payment: it is
recomputed from sums over its payments, and those sums are defined here, over
any list of payments, since a statement of a transaction may read an older
version of the table than the one it writes to.
-/

/-- A row of `orders`. The amount paid is a `numeric(78, 0)`, wider than an
on-chain amount. -/
structure OrderRecord where
  id : Uuid
  ownerSub : String
  childAccountId : Uuid
  receiveAddress : EvmAddress
  chainId : ℕ
  tokenAddress : EvmAddress
  expectedAmountRaw : RawAmount
  paidAmountRaw : ℕ
  status : OrderStatus
  expiresAt : Timestamp
  monitorUntil : Timestamp
  deriving DecidableEq

/-- A row of `payment_windows`. -/
structure PaymentWindowRecord where
  orderId : Uuid
  receiveAddress : EvmAddress
  windowFromBlock : ChainBlockRef
  expiresAt : Timestamp
  monitorUntil : Timestamp
  deriving DecidableEq

/-- A row of `order_payment_overrides`: what an operator accepted of the late
payments of an order. -/
structure OrderPaymentOverride where
  orderId : Uuid
  acceptedProblemPaymentRaw : RawAmount
  acceptedBy : String
  reason : Option String
  deriving DecidableEq

/-- A row of `payments`. -/
structure PaymentRecord where
  id : Uuid
  orderId : Uuid
  childAccountId : Uuid
  chainId : ℕ
  tokenAddress : EvmAddress
  txHash : TxHash
  logIndex : ℕ
  fromAddress : EvmAddress
  toAddress : EvmAddress
  amountRaw : RawAmount
  blockNumber : ℕ
  blockHash : BlockHash
  blockTime : Timestamp
  confirmations : ℕ
  matchStatus : PaymentMatchStatus
  chainStatus : PaymentChainStatus
  deriving DecidableEq

/-- What the matcher hands to the repositories: a payment before it is stored. -/
abbrev MatchedPaymentInput := PaymentRecord

namespace PaymentRecord

/-- The unique key `(chain_id, tx_hash, log_index)`. -/
def key (p : PaymentRecord) : ℕ × TxHash × ℕ := (p.chainId, p.txHash, p.logIndex)

/-- The block the payment was seen in. -/
def block (p : PaymentRecord) : ChainBlockRef := ⟨p.blockNumber, p.blockHash⟩

/-- Confirmed and on time. -/
def isConfirmedOnTime (p : PaymentRecord) : Bool :=
  decide (p.matchStatus = .onTime) && decide (p.chainStatus = .confirmed)

/-- On time and not orphaned. -/
def isNonOrphanedOnTime (p : PaymentRecord) : Bool :=
  decide (p.matchStatus = .onTime) && !decide (p.chainStatus = .orphaned)

/-- **A confirmed problem payment**: confirmed, and late or outside the window. -/
def isConfirmedProblem (p : PaymentRecord) : Bool :=
  !decide (p.matchStatus = .onTime) && decide (p.chainStatus = .confirmed)

/-- Confirmed, whenever it came. -/
def isConfirmed (p : PaymentRecord) : Bool := decide (p.chainStatus = .confirmed)

end PaymentRecord

/-- A row of `chain_cursors`, the scan cursor of one token. -/
structure ChainCursor where
  chainId : ℕ
  tokenAddress : EvmAddress
  lastScannedBlock : ℕ
  seenKvReorgEpoch : ℕ
  leaseOwner : Option String
  leaseUntil : Option Timestamp
  deriving DecidableEq

/-- The primary key of a cursor, and the stream of logs it is about. -/
structure StreamId where
  chainId : ℕ
  tokenAddress : EvmAddress
  deriving DecidableEq

/-- The stream a cursor is about. -/
def ChainCursor.stream (c : ChainCursor) : StreamId := ⟨c.chainId, c.tokenAddress⟩

namespace ChainCursor

/-- The cursor under a new lease. -/
def leased (workerId : String) (leaseUntil : Timestamp) (c : ChainCursor) : ChainCursor :=
  { c with leaseOwner := some workerId, leaseUntil := some leaseUntil }

/-- The cursor moved up to a block, its lease given back. -/
def advanced (completeToBlock : ℕ) (c : ChainCursor) : ChainCursor :=
  { c with lastScannedBlock := completeToBlock, leaseOwner := none, leaseUntil := none }

/-- The cursor taken back below a block, in a new epoch and without a lease. -/
def rewound (epoch lastReorgFrom : ℕ) (c : ChainCursor) : ChainCursor :=
  { c with
    lastScannedBlock := min c.lastScannedBlock (lastReorgFrom - 1)
    seenKvReorgEpoch := epoch
    leaseOwner := none
    leaseUntil := none }

theorem leased_stream (workerId : String) (leaseUntil : Timestamp) (c : ChainCursor) :
    (c.leased workerId leaseUntil).stream = c.stream := rfl

theorem advanced_stream (completeToBlock : ℕ) (c : ChainCursor) :
    (c.advanced completeToBlock).stream = c.stream := rfl

theorem rewound_stream (epoch lastReorgFrom : ℕ) (c : ChainCursor) :
    (c.rewound epoch lastReorgFrom).stream = c.stream := rfl

end ChainCursor

/-- **The payment side of the database.** -/
structure PaymentDb where
  orders : List OrderRecord
  windows : List PaymentWindowRecord
  overrides : List OrderPaymentOverride
  payments : List PaymentRecord
  cursors : List ChainCursor
  deriving DecidableEq

/-! ## Totals -/

/-- **`SUM(amount_raw) FILTER (WHERE q)`** over the payments of an order. -/
def totalWhere (q : PaymentRecord → Bool) (payments : List PaymentRecord) (orderId : Uuid) : ℕ :=
  ((payments.filter (fun p => decide (p.orderId = orderId) && q p)).map
    (fun p => p.amountRaw.toNat)).sum

/-- `confirmed_on_time_total`. -/
def confirmedOnTimeTotal := totalWhere PaymentRecord.isConfirmedOnTime

/-- `non_orphaned_on_time_total`. -/
def nonOrphanedOnTimeTotal := totalWhere PaymentRecord.isNonOrphanedOnTime

/-- `confirmed_problem_total`. -/
def confirmedProblemTotal := totalWhere PaymentRecord.isConfirmedProblem

/-- Everything confirmed for an order, on time or not. -/
def confirmedTotal := totalWhere PaymentRecord.isConfirmed

@[simp] theorem totalWhere_nil (q : PaymentRecord → Bool) (orderId : Uuid) :
    totalWhere q [] orderId = 0 := rfl

theorem totalWhere_cons (q : PaymentRecord → Bool) (p : PaymentRecord) (rows : List PaymentRecord)
    (orderId : Uuid) :
    totalWhere q (p :: rows) orderId
      = (if p.orderId = orderId ∧ q p = true then p.amountRaw.toNat else 0)
        + totalWhere q rows orderId := by
  unfold totalWhere
  rw [List.filter_cons]
  by_cases h : p.orderId = orderId ∧ q p = true
  · rw [if_pos h, if_pos (by simp [h])]
    rfl
  · rw [if_neg h, if_neg (by simpa using h), Nat.zero_add]

theorem totalWhere_append (q : PaymentRecord → Bool) (rows more : List PaymentRecord)
    (orderId : Uuid) :
    totalWhere q (rows ++ more) orderId = totalWhere q rows orderId + totalWhere q more orderId := by
  unfold totalWhere
  rw [List.filter_append, List.map_append, List.sum_append]

/-- What one row adds to the total of an order. -/
def PaymentRecord.share (q : PaymentRecord → Bool) (orderId : Uuid) (p : PaymentRecord) : ℕ :=
  if p.orderId = orderId ∧ q p = true then p.amountRaw.toNat else 0

theorem totalWhere_eq_sum (q : PaymentRecord → Bool) (rows : List PaymentRecord) (orderId : Uuid) :
    totalWhere q rows orderId = (rows.map (PaymentRecord.share q orderId)).sum := by
  induction rows with
  | nil => rfl
  | cons p rows ih =>
    rw [totalWhere_cons, ih, List.map_cons, List.sum_cons]
    rfl

/-- A total can only grow when no row adds less than the row it comes from. -/
theorem totalWhere_le_of_forall₂ {q q' : PaymentRecord → Bool} {rows rows' : List PaymentRecord}
    {orderId : Uuid}
    (h : List.Forall₂ (fun p p' => p.share q orderId ≤ p'.share q' orderId) rows rows') :
    totalWhere q rows orderId ≤ totalWhere q' rows' orderId := by
  induction h with
  | nil => exact Nat.le_refl _
  | cons hp _ ih =>
    rw [totalWhere_cons, totalWhere_cons]
    exact Nat.add_le_add hp ih

/-- An update compared row by row. -/
theorem totalWhere_le_updateWhere {q q' sel : PaymentRecord → Bool}
    {f : PaymentRecord → PaymentRecord} {rows : List PaymentRecord} {orderId : Uuid}
    (hsel : ∀ p ∈ rows, sel p = true → p.share q orderId ≤ (f p).share q' orderId)
    (hother : ∀ p ∈ rows, sel p = false → p.share q orderId ≤ p.share q' orderId) :
    totalWhere q rows orderId ≤ totalWhere q' (updateWhere sel f rows) orderId := by
  rw [totalWhere_eq_sum, totalWhere_eq_sum, updateWhere, List.map_map]
  refine List.sum_le_sum (fun p hp => ?_)
  rw [Function.comp_apply]
  by_cases h : sel p = true
  · rw [if_pos h]
    exact hsel p hp h
  · rw [if_neg h]
    exact hother p hp (by simpa using h)

/-- An update of other orders' rows leaves the totals of an order alone. -/
theorem totalWhere_updateWhere_of_ne {q sel : PaymentRecord → Bool}
    {f : PaymentRecord → PaymentRecord} (hf : ∀ p, (f p).orderId = p.orderId)
    {rows : List PaymentRecord} {orderId : Uuid}
    (h : ∀ p ∈ rows, sel p = true → p.orderId ≠ orderId) :
    totalWhere q (updateWhere sel f rows) orderId = totalWhere q rows orderId := by
  rw [totalWhere_eq_sum, totalWhere_eq_sum, updateWhere, List.map_map]
  refine congrArg List.sum (List.map_congr_left (fun p hp => ?_))
  rw [Function.comp_apply]
  by_cases hsel : sel p = true
  · rw [if_pos hsel]
    unfold PaymentRecord.share
    rw [hf, if_neg (fun hc => h p hp hsel hc.1), if_neg (fun hc => h p hp hsel hc.1)]
  · rw [if_neg hsel]

/-- Writing a row of another order leaves the totals of an order alone. -/
theorem totalWhere_upsertBy_of_ne {q : PaymentRecord → Bool} {record : PaymentRecord}
    {rows : List PaymentRecord} {orderId : Uuid} (hne : record.orderId ≠ orderId)
    (hold : ∀ old, rows.find? (fun p => decide (p.key = record.key)) = some old →
      old.orderId = record.orderId) :
    totalWhere q (upsertBy PaymentRecord.key record rows) orderId = totalWhere q rows orderId := by
  induction rows with
  | nil =>
    unfold upsertBy
    rw [totalWhere_cons, if_neg (fun hc => hne hc.1), Nat.zero_add]
  | cons p rows ih =>
    unfold upsertBy
    by_cases hk : p.key = record.key
    · have hp : p.orderId = record.orderId := hold p (by simp [hk])
      rw [if_pos hk, totalWhere_cons, totalWhere_cons, if_neg (fun hc => hne hc.1),
        if_neg (fun hc => hne (hp ▸ hc.1))]
    · rw [if_neg hk, totalWhere_cons, totalWhere_cons, ih]
      intro old h
      exact hold old (by simpa [hk] using h)

/-- An order without payments has nothing in total. -/
theorem totalWhere_eq_zero {q : PaymentRecord → Bool} {rows : List PaymentRecord} {orderId : Uuid}
    (h : ∀ r ∈ rows, r.orderId ≠ orderId) : totalWhere q rows orderId = 0 := by
  have hnone : rows.filter (fun p => decide (p.orderId = orderId) && q p) = [] :=
    List.filter_eq_nil_iff.mpr (fun r hr => by simp [h r hr])
  unfold totalWhere
  rw [hnone]
  rfl

/-- **What is confirmed came on time or did not.** -/
theorem confirmedTotal_eq (payments : List PaymentRecord) (orderId : Uuid) :
    confirmedTotal payments orderId
      = confirmedOnTimeTotal payments orderId + confirmedProblemTotal payments orderId := by
  unfold confirmedTotal confirmedOnTimeTotal confirmedProblemTotal
  induction payments with
  | nil => rfl
  | cons p rows ih =>
    rw [totalWhere_cons, totalWhere_cons, totalWhere_cons, ih]
    by_cases ho : p.orderId = orderId
    · by_cases hc : p.chainStatus = .confirmed
      · by_cases hm : p.matchStatus = .onTime <;>
          simp [ho, hc, hm, PaymentRecord.isConfirmed, PaymentRecord.isConfirmedOnTime,
            PaymentRecord.isConfirmedProblem] <;> omega
      · simp [hc, PaymentRecord.isConfirmed, PaymentRecord.isConfirmedOnTime,
          PaymentRecord.isConfirmedProblem]
    · simp [ho]

/-- The two totals a recompute reads are the same over both tables. -/
structure SameTotals (payments payments' : List PaymentRecord) (orderId : Uuid) : Prop where
  confirmedOnTime : confirmedOnTimeTotal payments orderId = confirmedOnTimeTotal payments' orderId
  nonOrphanedOnTime :
    nonOrphanedOnTimeTotal payments orderId = nonOrphanedOnTimeTotal payments' orderId

instance (payments payments' : List PaymentRecord) (orderId : Uuid) :
    Decidable (SameTotals payments payments' orderId) :=
  decidable_of_iff (confirmedOnTimeTotal payments orderId = confirmedOnTimeTotal payments' orderId
      ∧ nonOrphanedOnTimeTotal payments orderId = nonOrphanedOnTimeTotal payments' orderId)
    ⟨fun h => ⟨h.1, h.2⟩, fun h => ⟨h.1, h.2⟩⟩

/-- The sum a problem payment was accepted up to, zero without an override. -/
def acceptedProblemPayment (overrides : List OrderPaymentOverride) (orderId : Uuid) : ℕ :=
  ((overrides.find? (fun ov => decide (ov.orderId = orderId))).map
    (fun ov => ov.acceptedProblemPaymentRaw.toNat)).getD 0

namespace PaymentDb

/-- The cursor of a stream. -/
def cursor? (db : PaymentDb) (stream : StreamId) : Option ChainCursor :=
  db.cursors.find? (fun c => decide (c.stream = stream))

/-- Applies `f` to the cursor of a stream. -/
def updateCursor (db : PaymentDb) (stream : StreamId) (f : ChainCursor → ChainCursor) : PaymentDb :=
  { db with cursors := updateWhere (fun c => decide (c.stream = stream)) f db.cursors }

@[simp] theorem updateCursor_orders (db : PaymentDb) (stream : StreamId)
    (f : ChainCursor → ChainCursor) : (db.updateCursor stream f).orders = db.orders := rfl

@[simp] theorem updateCursor_windows (db : PaymentDb) (stream : StreamId)
    (f : ChainCursor → ChainCursor) : (db.updateCursor stream f).windows = db.windows := rfl

@[simp] theorem updateCursor_overrides (db : PaymentDb) (stream : StreamId)
    (f : ChainCursor → ChainCursor) : (db.updateCursor stream f).overrides = db.overrides := rfl

@[simp] theorem updateCursor_payments (db : PaymentDb) (stream : StreamId)
    (f : ChainCursor → ChainCursor) : (db.updateCursor stream f).payments = db.payments := rfl

end PaymentDb
