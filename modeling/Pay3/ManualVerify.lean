import Pay3.OrderRepository
import Pay3.ScannerSystem

/-!
# What a verification reports

`verify_order` reads the transfers to an order's address, records them, and
answers with a status and the amount paid. The answer is not read from the row
that `record_verified_payments` has just committed. It is computed a second
time, by the domain's `recompute_order_status`, from the payments that were
returned: with 256-bit sums that fail when they overflow, and without the
problem payment an operator may have accepted for the order.

So the two agree exactly as long as no problem payment was accepted and what
came on time sums to a 256-bit number.
-/

/-! ## The domain's recompute -/

/-- `PaymentFact`. -/
structure PaymentFact where
  amount : RawAmount
  matchStatus : PaymentMatchStatus
  chainStatus : PaymentChainStatus
  deriving DecidableEq

/-- `is_confirmed_on_time`. -/
def PaymentFact.isConfirmedOnTime (p : PaymentFact) : Bool :=
  decide (p.matchStatus = .onTime) && decide (p.chainStatus = .confirmed)

/-- `is_non_orphaned_on_time`. -/
def PaymentFact.isNonOrphanedOnTime (p : PaymentFact) : Bool :=
  decide (p.matchStatus = .onTime) && !decide (p.chainStatus = .orphaned)

/-- `OrderStatusDecision`. -/
structure OrderStatusDecision where
  status : OrderStatus
  confirmedOnTimeTotal : RawAmount
  nonOrphanedOnTimeTotal : RawAmount
  deriving DecidableEq

/-- `OrderStatusError`. -/
inductive OrderStatusError
  | amountOverflow
  deriving DecidableEq, Repr

/-- `checked_add` of two amounts. -/
def checkedAdd (a b : RawAmount) : Option RawAmount :=
  if a.toNat + b.toNat < 2 ^ 256 then some (a + b) else none

/-- A checked addition under a condition. -/
def addWhen (condition : Bool) (total amount : RawAmount) : Except OrderStatusError RawAmount :=
  if condition then orError (checkedAdd total amount) .amountOverflow else .ok total

/-- One turn of the loop over the payments. -/
def addPayment (totals : RawAmount × RawAmount) (p : PaymentFact) :
    Except OrderStatusError (RawAmount × RawAmount) := do
  let confirmed ← addWhen p.isConfirmedOnTime totals.1 p.amount
  let nonOrphaned ← addWhen p.isNonOrphanedOnTime totals.2 p.amount
  pure (confirmed, nonOrphaned)

/-- **`recompute_order_status`.** -/
def recomputeOrderStatus (requiredAmount : RawAmount) (payments : List PaymentFact)
    (isExpired : Bool) : Except OrderStatusError OrderStatusDecision := do
  let totals ← payments.foldlM addPayment (0, 0)
  let status : OrderStatus :=
    if requiredAmount ≤ totals.1 then .paid
    else if requiredAmount ≤ totals.2 then .confirming
    else if totals.2 ≠ 0 ∧ isExpired = false then .partial_
    else if isExpired then .expired
    else .pending
  pure ⟨status, totals.1, totals.2⟩

/-! ## The service -/

/-- `ManualVerifyStatus`. -/
inductive ManualVerifyStatus
  | confirmed | confirming | noCoverage
  deriving DecidableEq, Repr

/-- `ManualVerifyResult`. -/
structure ManualVerifyResult where
  orderId : Uuid
  status : ManualVerifyStatus
  matchedPayments : ℕ
  paidAmountRaw : RawAmount
  confirmations : ℕ
  completeToBlock : Option ℕ
  deriving DecidableEq

/-- `ManualVerifyError`. -/
inductive ManualVerifyError
  | invalidConfig (field : String)
  | orderNotFound (orderId : Uuid)
  | coverageInsufficient (orderId : Uuid)
  | logLimitExceeded (orderId : Uuid) (limit : ℕ)
  | canonicalBlockMismatch (blockNumber : ℕ) (storedHash canonicalHash : BlockHash)
  | repository (error : RepositoryError)
  | chain (error : ChainError)
  | orderStatus (error : OrderStatusError)
  deriving DecidableEq

/-- `manual_status_from_order_status`. -/
def manualStatusFromOrderStatus : OrderStatus → ManualVerifyStatus
  | .paid => .confirmed
  | .pending => .confirming
  | .partial_ => .confirming
  | .confirming => .confirming
  | .expired => .confirming

/-- `payment_facts`. -/
def paymentFacts (records : List PaymentRecord) : List PaymentFact :=
  records.map (fun p => ⟨p.amountRaw, p.matchStatus, p.chainStatus⟩)

/-- `get_order_view` and `get_order_view_for_owner`: an order with its window. -/
def orderView (db : PaymentDb) (orderId : Uuid) (ownerSub : Option String) :
    Except RepositoryError (Option (OrderRecord × PaymentWindowRecord)) :=
  match db.orders.find? (fun o => decide (o.id = orderId) &&
      ownerSub.all (fun sub => decide (o.ownerSub = sub))) with
  | none => .ok none
  | some o =>
    match db.windows.find? (fun w => decide (w.orderId = o.id)) with
    | none => .ok none
    | some w => (rowToOrderRecord o).map (fun o => some (o, w))

/-- `candidate_from_order_view`. -/
def candidateFromOrderView (o : OrderRecord) (w : PaymentWindowRecord) :
    PaymentWindowCandidate where
  orderId := o.id
  childAccountId := o.childAccountId
  receiveAddress := o.receiveAddress
  chainId := o.chainId
  tokenAddress := o.tokenAddress
  expectedAmountRaw := o.expectedAmountRaw
  paidAmountRaw := BitVec.ofNat 256 o.paidAmountRaw
  orderStatus := o.status
  windowFromBlock := w.windowFromBlock
  expiresAt := w.expiresAt
  monitorUntil := w.monitorUntil

/-- The log source and the header reader a verification asks, by what they
answer. -/
structure ChainSource where
  latestHead : Except ChainError ChainBlockRef
  transferLogs : TransferLogRange → Except ChainError (List TransferLog)
  blockByNumber : ℕ → Except ChainError ChainBlock

section Service

variable (config : ManualVerifyConfig) (source : ChainSource) (newId : ℕ → Uuid)

/-- The check of one payment against the canonical chain. -/
def checkCanonicalBlock (payment : MatchedPaymentInput) : Except ManualVerifyError Unit := do
  let block ← (source.blockByNumber payment.blockNumber).mapError ManualVerifyError.chain
  ensure (decide (block.hash = payment.blockHash))
    (.canonicalBlockMismatch payment.blockNumber payment.blockHash block.hash)

/-- `verify_order_internal` up to the payments it records: the order it read,
the payments, and the block they are complete to. -/
def matchOrderPayments (db : PaymentDb) (orderId : Uuid) (ownerSub : Option String) :
    Except ManualVerifyError (OrderRecord × List MatchedPaymentInput × ℕ) := do
  ensure (decide (config.maxLogsPerOrder ≠ 0)) (.invalidConfig "max_logs_per_order")
  let view ← (orderView db orderId ownerSub).mapError ManualVerifyError.repository
  let (o, w) ← orError view (.orderNotFound orderId)
  let stream : StreamId := ⟨o.chainId, o.tokenAddress⟩
  let fromBlock := w.windowFromBlock.number
  let head ← source.latestHead.mapError ManualVerifyError.chain
  ensure (decide (fromBlock ≤ head.number)) (.coverageInsufficient orderId)
  let range : TransferLogRange :=
    ⟨stream.chainId, stream.tokenAddress, fromBlock, head.number, some o.receiveAddress⟩
  let logs ← (source.transferLogs range).mapError ManualVerifyError.chain
  ensure (decide (logs.length ≤ config.maxLogsPerOrder))
    (.logLimitExceeded orderId config.maxLogsPerOrder)
  let matched := matchTransferLogs stream config.minConfirmations logs
    [candidateFromOrderView o w] head newId
  let _ ← collectOk (checkCanonicalBlock source) matched
  pure (o, matched, head.number)

end Service

/-- The answer of a verification, from the payments the recorder returned. -/
def verifyResult (o : OrderRecord) (orderId : Uuid) (now : Timestamp)
    (matched : List MatchedPaymentInput) (completeToBlock : ℕ) (records : List PaymentRecord) :
    Except ManualVerifyError ManualVerifyResult := do
  let decision ← (recomputeOrderStatus o.expectedAmountRaw (paymentFacts records)
    (decide (o.expiresAt ≤ now))).mapError ManualVerifyError.orderStatus
  pure {
    orderId := orderId
    status := manualStatusFromOrderStatus decision.status
    matchedPayments := matched.length
    paidAmountRaw := decision.confirmedOnTimeTotal
    confirmations := (records.map PaymentRecord.confirmations).max?.getD 0
    completeToBlock := some completeToBlock }

/-- **`verify_order_internal`**: the answer and the database it leaves. The order
is read in `db`; `stored` is the database the recorder finds, which others may
have written to in between. -/
def verifyOrderInternal (config : ManualVerifyConfig) (source : ChainSource) (newId : ℕ → Uuid)
    (db stored : PaymentDb) (now : Timestamp) (orderId : Uuid) (ownerSub : Option String) :
    Except ManualVerifyError ManualVerifyResult × PaymentDb :=
  match matchOrderPayments config source newId db orderId ownerSub with
  | .error e => (.error e, stored)
  | .ok (o, matched, completeToBlock) =>
    match recordVerifiedPayments stored now orderId matched with
    | .error e => (.error (.repository e), stored)
    | .ok (records, db') => (verifyResult o orderId now matched completeToBlock records, db')

/-! ## What a verification reads -/

/-- The view of an order. -/
theorem orderView_eq_some {db : PaymentDb} {id : Uuid} {ownerSub : Option String} {o : OrderRecord}
    {w : PaymentWindowRecord} (h : orderView db id ownerSub = .ok (some (o, w))) :
    o ∈ db.orders ∧ o.id = id ∧ (∀ sub ∈ ownerSub, o.ownerSub = sub)
      ∧ w ∈ db.windows ∧ w.orderId = o.id := by
  unfold orderView at h
  split at h
  · cases h
  · rename_i row hfind
    split at h
    · cases h
    · rename_i window hwindow
      obtain ⟨o', hrow, hsome⟩ := Except.map_eq_ok.mp h
      obtain ⟨rfl, rfl⟩ := Prod.mk.inj (Option.some.inj hsome)
      rw [rowToOrderRecord_eq_ok hrow]
      have hid := List.find?_some hfind
      rw [Bool.and_eq_true, decide_eq_true_eq, Option.all_eq_true] at hid
      obtain ⟨hw, hwo⟩ := mem_of_find?_key hwindow
      exact ⟨List.mem_of_find?_eq_some hfind, hid.1, fun sub hsub =>
        of_decide_eq_true (hid.2 sub hsub), hw, hwo⟩

/-- What a verification read and matched. -/
theorem matchOrderPayments_eq_ok {config : ManualVerifyConfig} {source : ChainSource}
    {newId : ℕ → Uuid} {db : PaymentDb} {orderId : Uuid} {ownerSub : Option String}
    {o : OrderRecord} {matched : List MatchedPaymentInput} {toBlock : ℕ}
    (h : matchOrderPayments config source newId db orderId ownerSub = .ok (o, matched, toBlock)) :
    ∃ w head logs, orderView db orderId ownerSub = .ok (some (o, w))
      ∧ source.latestHead = .ok head ∧ toBlock = head.number
      ∧ source.transferLogs ⟨o.chainId, o.tokenAddress, w.windowFromBlock.number, head.number,
          some o.receiveAddress⟩ = .ok logs
      ∧ matched = matchTransferLogs ⟨o.chainId, o.tokenAddress⟩ config.minConfirmations logs
          [candidateFromOrderView o w] head newId := by
  unfold matchOrderPayments at h
  obtain ⟨-, h⟩ := ensure_bind_eq_ok.mp h
  obtain ⟨view, hview, h⟩ := Except.bind_eq_ok.mp h
  obtain ⟨⟨o', w⟩, hrow, h⟩ := Except.bind_eq_ok.mp h
  obtain ⟨head, hhead, h⟩ := Except.bind_eq_ok.mp h
  obtain ⟨-, h⟩ := ensure_bind_eq_ok.mp h
  obtain ⟨logs, hlogs, h⟩ := Except.bind_eq_ok.mp h
  obtain ⟨-, h⟩ := ensure_bind_eq_ok.mp h
  obtain ⟨_, -, h⟩ := Except.bind_eq_ok.mp h
  obtain ⟨rfl, hrest⟩ := Prod.mk.inj (Except.pure_eq_ok.mp h)
  obtain ⟨rfl, rfl⟩ := Prod.mk.inj hrest
  rw [orError_eq_ok.mp hrow] at hview
  exact ⟨w, head, logs, Except.mapError_eq_ok.mp hview, Except.mapError_eq_ok.mp hhead, rfl,
    Except.mapError_eq_ok.mp hlogs, rfl⟩

/-! ## The sums of the domain -/

/-- What one payment adds to a sum. -/
def PaymentFact.share (q : PaymentFact → Bool) (p : PaymentFact) : ℕ :=
  if q p then p.amount.toNat else 0

/-- The sum of the payments that meet a condition, without a bound. -/
def factTotal (q : PaymentFact → Bool) (payments : List PaymentFact) : ℕ :=
  (payments.map (PaymentFact.share q)).sum

@[simp] theorem factTotal_nil (q : PaymentFact → Bool) : factTotal q [] = 0 := rfl

@[simp] theorem factTotal_cons (q : PaymentFact → Bool) (p : PaymentFact)
    (payments : List PaymentFact) :
    factTotal q (p :: payments) = p.share q + factTotal q payments := rfl

/-- An amount, if it is a 256-bit one. -/
def amountOfNat (n : ℕ) : Except OrderStatusError RawAmount :=
  if n < 2 ^ 256 then .ok (BitVec.ofNat 256 n) else .error .amountOverflow

/-- One checked addition, made or left out. -/
theorem addWhen_eq (q : PaymentFact → Bool) (total : RawAmount) (p : PaymentFact) :
    addWhen (q p) total p.amount = amountOfNat (total.toNat + p.share q) := by
  unfold addWhen amountOfNat PaymentFact.share
  cases q p with
  | false =>
    rw [if_neg (by decide)]
    simp [total.isLt]
  | true =>
    rw [if_pos rfl, if_pos rfl]
    unfold checkedAdd
    by_cases hlt : total.toNat + p.amount.toNat < 2 ^ 256
    · rw [if_pos hlt, if_pos hlt]
      show Except.ok _ = _
      simp [BitVec.ofNat_add]
    · rw [if_neg hlt, if_neg hlt]
      rfl

/-- **The loop fails when one of the sums overflows**, and otherwise returns them. -/
theorem foldlM_addPayment (payments : List PaymentFact) (totals : RawAmount × RawAmount) :
    payments.foldlM addPayment totals
      = if totals.1.toNat + factTotal PaymentFact.isConfirmedOnTime payments < 2 ^ 256
          ∧ totals.2.toNat + factTotal PaymentFact.isNonOrphanedOnTime payments < 2 ^ 256
        then .ok (BitVec.ofNat 256
            (totals.1.toNat + factTotal PaymentFact.isConfirmedOnTime payments),
          BitVec.ofNat 256
            (totals.2.toNat + factTotal PaymentFact.isNonOrphanedOnTime payments))
        else .error .amountOverflow := by
  induction payments generalizing totals with
  | nil =>
    rw [if_pos (by simp [totals.1.isLt, totals.2.isLt])]
    simp [pure, Except.pure]
  | cons p payments ih =>
    rw [List.foldlM_cons]
    rw [show addPayment totals p = _ from congrArg₂ (fun x y => x >>= fun c => y >>= fun n =>
      pure (c, n)) (addWhen_eq _ totals.1 p) (addWhen_eq _ totals.2 p)]
    unfold amountOfNat
    simp only [factTotal_cons, ← Nat.add_assoc]
    by_cases h₁ : totals.1.toNat + p.share PaymentFact.isConfirmedOnTime < 2 ^ 256
    · rw [if_pos h₁]
      by_cases h₂ : totals.2.toNat + p.share PaymentFact.isNonOrphanedOnTime < 2 ^ 256
      · rw [if_pos h₂]
        refine (ih _).trans ?_
        rw [BitVec.toNat_ofNat, BitVec.toNat_ofNat, Nat.mod_eq_of_lt h₁, Nat.mod_eq_of_lt h₂]
      · rw [if_neg h₂]
        exact (if_neg (fun hc => h₂ (Nat.lt_of_le_of_lt (Nat.le_add_right _ _) hc.2))).symm
    · rw [if_neg h₁]
      exact (if_neg (fun hc => h₁ (Nat.lt_of_le_of_lt (Nat.le_add_right _ _) hc.1))).symm

/-- What is confirmed is not orphaned. -/
theorem factTotal_confirmed_le (payments : List PaymentFact) :
    factTotal PaymentFact.isConfirmedOnTime payments
      ≤ factTotal PaymentFact.isNonOrphanedOnTime payments := by
  refine List.sum_le_sum (fun p _ => ?_)
  unfold PaymentFact.share PaymentFact.isConfirmedOnTime PaymentFact.isNonOrphanedOnTime
  by_cases hm : p.matchStatus = .onTime
  · cases hc : p.chainStatus <;> simp [hm]
  · simp [hm]

/-- **The domain's recompute** decides as the repository's does on the same sums,
and fails when what came on time does not fit. -/
theorem recomputeOrderStatus_eq (required : RawAmount) (payments : List PaymentFact)
    (isExpired : Bool) :
    recomputeOrderStatus required payments isExpired
      = if factTotal PaymentFact.isNonOrphanedOnTime payments < 2 ^ 256
        then .ok ⟨recomputeStatusFromTotals required.toNat
            (factTotal PaymentFact.isConfirmedOnTime payments)
            (factTotal PaymentFact.isNonOrphanedOnTime payments) isExpired,
          BitVec.ofNat 256 (factTotal PaymentFact.isConfirmedOnTime payments),
          BitVec.ofNat 256 (factTotal PaymentFact.isNonOrphanedOnTime payments)⟩
        else .error .amountOverflow := by
  have hle := factTotal_confirmed_le payments
  have hzero : (0 : RawAmount).toNat = 0 := rfl
  have hloop := foldlM_addPayment payments (0, 0)
  simp only [hzero, Nat.zero_add] at hloop
  unfold recomputeOrderStatus
  rw [hloop]
  by_cases h : factTotal PaymentFact.isNonOrphanedOnTime payments < 2 ^ 256
  · have hconfirmed := Nat.lt_of_le_of_lt hle h
    rw [if_pos (And.intro hconfirmed h), if_pos h]
    refine congrArg Except.ok ?_
    unfold recomputeStatusFromTotals
    simp only [BitVec.le_def, BitVec.toNat_ofNat, Nat.mod_eq_of_lt hconfirmed, Nat.mod_eq_of_lt h,
      ne_eq, BitVec.toNat_eq, hzero, Nat.pos_iff_ne_zero]
  · rw [if_neg h, if_neg (show ¬ (_ ∧ _) from fun hc => h hc.2)]
    rfl

/-! ## The row and the answer -/

/-- A total in the table is the sum the domain takes over the payments read back. -/
theorem factTotal_paymentFacts (q : PaymentFact → Bool) (db : PaymentDb) (orderId : Uuid) :
    factTotal q (paymentFacts (paymentRecordsForOrderTx db orderId))
      = totalWhere (fun p => q ⟨p.amountRaw, p.matchStatus, p.chainStatus⟩) db.payments orderId := by
  have hsum : ∀ payments : List PaymentRecord,
      factTotal q (paymentFacts (payments.filter (fun p => decide (p.orderId = orderId))))
        = totalWhere (fun p => q ⟨p.amountRaw, p.matchStatus, p.chainStatus⟩) payments orderId := by
    intro payments
    induction payments with
    | nil => rfl
    | cons p payments ih =>
      rw [totalWhere_cons, ← ih, List.filter_cons]
      by_cases ho : p.orderId = orderId
      · simp [ho, paymentFacts, PaymentFact.share]
      · simp [ho]
  rw [← hsum]
  unfold factTotal paymentFacts paymentRecordsForOrderTx
  exact (((List.perm_insertionSort _ _).map _).map _).sum_eq

/-- A recompute of one order finds it, once. -/
theorem recomputeOrdersInTx_singleton {db db' : PaymentDb} {now : Timestamp} {orderId : Uuid}
    (h : recomputeOrdersInTx db now [orderId] = .ok db') :
    ∃ o, db.orders.filter (fun o => decide (o.id = orderId)) = [o] := by
  unfold recomputeOrdersInTx at h
  rw [if_neg (by simp)] at h
  obtain ⟨hlength, -⟩ := ensure_bind_eq_ok.mp h
  simp only [List.mem_singleton, decide_eq_true_eq, List.length_singleton] at hlength
  exact List.length_eq_one_iff.mp hlength

/-- **The row the recorder commits**, and the payments it returns. -/
theorem row_of_recordVerifiedPayments {db db' : PaymentDb} {now : Timestamp} {orderId : Uuid}
    {matched : List MatchedPaymentInput} {records : List PaymentRecord}
    (h : recordVerifiedPayments db now orderId matched = .ok (records, db')) :
    records = paymentRecordsForOrderTx db' orderId ∧ ∃ o ∈ db.orders, o.id = orderId
      ∧ db'.orders.filter (fun o => decide (o.id = orderId))
        = [recomputedOrder db'.payments db.overrides now o] := by
  unfold recordVerifiedPayments at h
  obtain ⟨-, h⟩ := ensure_bind_eq_ok.mp h
  obtain ⟨⟨written, db₁⟩, hup, h⟩ := Except.bind_eq_ok.mp h
  obtain ⟨db₂, hre, h⟩ := Except.bind_eq_ok.mp h
  obtain ⟨rfl, rfl⟩ := Prod.mk.inj (Except.pure_eq_ok.mp h)
  have hframe := upsertMatchedPayments_frame hup
  rw [show sortedSet [orderId] = [orderId] from rfl] at hre
  obtain ⟨o, ho⟩ := recomputeOrdersInTx_singleton hre
  obtain ⟨-, rfl⟩ := recomputeOrdersInTx_eq_ok hre
  have hmem := List.mem_filter.mp (ho ▸ List.mem_singleton_self o)
  have horders : db₁.orders = db.orders := by rw [hframe]
  have hoverrides : db₁.overrides = db.overrides := by rw [hframe]
  refine ⟨rfl, o, horders ▸ hmem.1, of_decide_eq_true hmem.2, ?_⟩
  rw [PaymentDb.recomputed_payments, ← hoverrides]
  unfold PaymentDb.recomputed
  simp only [List.mem_singleton]
  refine (filter_updateWhere (p := fun r : OrderRecord => decide (r.id = orderId))
    (f := recomputedOrder db₁.payments db₁.overrides now) (fun r hr => hr) db₁.orders).trans ?_
  rw [ho]
  rfl

/-- The answer and the row say the same: what was paid, and the status as
`manual_status_from_order_status` shows it. -/
def ManualVerifyResult.Reports (result : ManualVerifyResult) (o : OrderRecord) : Prop :=
  result.status = manualStatusFromOrderStatus o.status
    ∧ result.paidAmountRaw.toNat = o.paidAmountRaw

/-- The domain's recompute of some payments decides what the row says. -/
def OrderRecord.DecidedBy (o : OrderRecord) (records : List PaymentRecord) (now : Timestamp) :
    Prop :=
  ∃ decision, recomputeOrderStatus o.expectedAmountRaw (paymentFacts records)
      (decide (o.expiresAt ≤ now)) = .ok decision
    ∧ decision.status = o.status ∧ decision.confirmedOnTimeTotal.toNat = o.paidAmountRaw

section Agreement

variable {stored db' : PaymentDb} {now : Timestamp} {orderId : Uuid}
  {matched : List MatchedPaymentInput} {records : List PaymentRecord} {row : OrderRecord}

/-- The domain decides on the totals of the table. -/
theorem recomputeOrderStatus_records (db : PaymentDb) (orderId : Uuid) (required : RawAmount)
    (isExpired : Bool) :
    recomputeOrderStatus required (paymentFacts (paymentRecordsForOrderTx db orderId)) isExpired
      = if nonOrphanedOnTimeTotal db.payments orderId < 2 ^ 256
        then .ok ⟨recomputeStatusFromTotals required.toNat
            (confirmedOnTimeTotal db.payments orderId)
            (nonOrphanedOnTimeTotal db.payments orderId) isExpired,
          BitVec.ofNat 256 (confirmedOnTimeTotal db.payments orderId),
          BitVec.ofNat 256 (nonOrphanedOnTimeTotal db.payments orderId)⟩
        else .error .amountOverflow := by
  rw [recomputeOrderStatus_eq, factTotal_paymentFacts, factTotal_paymentFacts]
  rfl

/-- What is confirmed on time is at most what is not orphaned. -/
theorem confirmedOnTimeTotal_le (payments : List PaymentRecord) (orderId : Uuid) :
    confirmedOnTimeTotal payments orderId ≤ nonOrphanedOnTimeTotal payments orderId := by
  have hle := factTotal_confirmed_le (paymentFacts (paymentRecordsForOrderTx
    ⟨[], [], [], payments, []⟩ orderId))
  rw [factTotal_paymentFacts, factTotal_paymentFacts] at hle
  exact hle

/-- The domain agrees with the row the recorder commits as long as no problem
payment was accepted and what came on time fits. -/
theorem decidedBy_iff {o : OrderRecord} :
    (recomputedOrder db'.payments stored.overrides now o).DecidedBy
        (paymentRecordsForOrderTx db' o.id) now
      ↔ acceptedProblemPayment stored.overrides o.id = 0
        ∧ nonOrphanedOnTimeTotal db'.payments o.id < 2 ^ 256 := by
  have hle := confirmedOnTimeTotal_le db'.payments o.id
  unfold OrderRecord.DecidedBy
  rw [recomputeOrderStatus_records]
  constructor
  · rintro ⟨decision, hdecision, -, hpaid⟩
    by_cases hlt : nonOrphanedOnTimeTotal db'.payments o.id < 2 ^ 256
    · rw [if_pos hlt] at hdecision
      obtain rfl := Except.ok.inj hdecision
      have hsum : confirmedOnTimeTotal db'.payments o.id
          = confirmedOnTimeTotal db'.payments o.id
            + acceptedProblemPayment stored.overrides o.id := by
        have hmod := Nat.mod_eq_of_lt (Nat.lt_of_le_of_lt hle hlt)
        rw [BitVec.toNat_ofNat, hmod] at hpaid
        exact hpaid
      exact ⟨by omega, hlt⟩
    · rw [if_neg hlt] at hdecision
      cases hdecision
  · rintro ⟨hzero, hlt⟩
    rw [if_pos hlt]
    refine ⟨_, rfl, ?_, ?_⟩
    · show recomputeStatusFromTotals _ _ _ _ = recomputeStatusFromTotals _ _ _ _
      rw [hzero]
      rfl
    · show (BitVec.ofNat 256 _).toNat = _ + acceptedProblemPayment stored.overrides o.id
      rw [BitVec.toNat_ofNat, Nat.mod_eq_of_lt (Nat.lt_of_le_of_lt hle hlt), hzero]
      rfl

/-- The answer a verification gives is the domain's decision. -/
theorem verifyResult_eq_ok {o : OrderRecord} {completeToBlock : ℕ} {result : ManualVerifyResult}
    (h : verifyResult o orderId now matched completeToBlock records = .ok result) :
    ∃ decision, recomputeOrderStatus o.expectedAmountRaw (paymentFacts records)
        (decide (o.expiresAt ≤ now)) = .ok decision
      ∧ result.orderId = orderId ∧ result.status = manualStatusFromOrderStatus decision.status
      ∧ result.paidAmountRaw = decision.confirmedOnTimeTotal := by
  unfold verifyResult at h
  obtain ⟨decision, hdecision, h⟩ := Except.bind_eq_ok.mp h
  obtain rfl := Except.pure_eq_ok.mp h
  exact ⟨decision, Except.mapError_eq_ok.mp hdecision, rfl, rfl, rfl⟩

/-- A decision is answered. -/
theorem verifyResult_of_ok {o : OrderRecord} {completeToBlock : ℕ} {decision : OrderStatusDecision}
    (h : recomputeOrderStatus o.expectedAmountRaw (paymentFacts records)
      (decide (o.expiresAt ≤ now)) = .ok decision) :
    ∃ result, verifyResult o orderId now matched completeToBlock records = .ok result
      ∧ result.paidAmountRaw = decision.confirmedOnTimeTotal := by
  unfold verifyResult
  rw [h]
  exact ⟨_, rfl, rfl⟩

end Agreement

/-- **When a verification reports what was stored.** The order is read in `db`
and the payments are recorded in `stored`; nothing writes the expected amount or
the expiry of an order in between. The answer is the committed row exactly when
no problem payment was accepted for the order, or there is no answer because
what came on time overflows; and the domain decides as the repository exactly
when neither is the case. -/
theorem reportsStored_iff (config : ManualVerifyConfig) (source : ChainSource) (newId : ℕ → Uuid)
    (db stored : PaymentDb) (now : Timestamp) (orderId : Uuid) (ownerSub : Option String)
    {o : OrderRecord} {matched : List MatchedPaymentInput} {completeToBlock : ℕ}
    {records : List PaymentRecord} {db' : PaymentDb}
    (hread : matchOrderPayments config source newId db orderId ownerSub
      = .ok (o, matched, completeToBlock))
    (hkept : ∀ r ∈ stored.orders, r.id = orderId →
      r.expectedAmountRaw = o.expectedAmountRaw ∧ r.expiresAt = o.expiresAt)
    (hrecord : recordVerifiedPayments stored now orderId matched = .ok (records, db')) :
    (verifyOrderInternal config source newId db stored now orderId ownerSub).2 = db'
    ∧ ∃ row, db'.orders.filter (fun r => decide (r.id = orderId)) = [row]
      ∧ ((∀ result,
            (verifyOrderInternal config source newId db stored now orderId ownerSub).1
              = .ok result → result.Reports row)
          ↔ acceptedProblemPayment stored.overrides orderId = 0
            ∨ 2 ^ 256 ≤ nonOrphanedOnTimeTotal db'.payments orderId)
      ∧ (row.DecidedBy records now
          ↔ acceptedProblemPayment stored.overrides orderId = 0
            ∧ nonOrphanedOnTimeTotal db'.payments orderId < 2 ^ 256) := by
  obtain ⟨rfl, r, hr, rfl, hrow⟩ := row_of_recordVerifiedPayments hrecord
  obtain ⟨hexpected, hexpires⟩ := hkept r hr rfl
  have hverify : verifyOrderInternal config source newId db stored now r.id ownerSub
      = (verifyResult o r.id now matched completeToBlock (paymentRecordsForOrderTx db' r.id), db') := by
    unfold verifyOrderInternal
    rw [hread]
    dsimp only
    rw [hrecord]
  have hdecided := @decidedBy_iff stored db' now r
  refine ⟨by rw [hverify], _, hrow, ?_, hdecided⟩
  rw [hverify]
  constructor
  · intro hreports
    by_cases hlt : nonOrphanedOnTimeTotal db'.payments r.id < 2 ^ 256
    · left
      have hdecision := recomputeOrderStatus_records db' r.id o.expectedAmountRaw
        (decide (o.expiresAt ≤ now))
      rw [if_pos hlt] at hdecision
      obtain ⟨result, hresult, hanswer⟩ := verifyResult_of_ok hdecision
      have hsum : (BitVec.ofNat 256 (confirmedOnTimeTotal db'.payments r.id)).toNat
          = confirmedOnTimeTotal db'.payments r.id
            + acceptedProblemPayment stored.overrides r.id :=
        (congrArg BitVec.toNat hanswer).symm.trans (hreports result hresult).2
      rw [BitVec.toNat_ofNat, Nat.mod_eq_of_lt (Nat.lt_of_le_of_lt
        (confirmedOnTimeTotal_le db'.payments r.id) hlt)] at hsum
      omega
    · exact Or.inr (Nat.le_of_not_lt hlt)
  · intro hcond result hresult
    obtain ⟨decision, hdecision, -, hstatus, hpaid⟩ := verifyResult_eq_ok hresult
    rw [← hexpected, ← hexpires] at hdecision
    have hlt : nonOrphanedOnTimeTotal db'.payments r.id < 2 ^ 256 := by
      by_contra hge
      rw [recomputeOrderStatus_records, if_neg hge] at hdecision
      cases hdecision
    have hzero : acceptedProblemPayment stored.overrides r.id = 0 := by omega
    obtain ⟨decision', hdecision', hs, hp⟩ := hdecided.mpr ⟨hzero, hlt⟩
    obtain rfl := Except.ok.inj (hdecision.symm.trans hdecision')
    exact ⟨by rw [hstatus, hs], by rw [hpaid, hp]⟩

namespace SmallVerify

/-- An order of 100, whose window closed at time 10. -/
def order : OrderRecord := ⟨0xd1, "merchant", 0xe1, 0xc1, 1, 0x70, 100, 0, .pending, 10, 20⟩

/-- A transfer of 100 to the order. -/
def transfer (time : Timestamp) : TransferLog :=
  ⟨⟨⟨0x70, 0xa1, 0, 0xf1, 0xc1, 100⟩, 7, 0x97⟩, 1, time⟩

/-- The order, not yet paid. -/
def unpaid : PaymentDb := ⟨[order], [⟨0xd1, 0xc1, ⟨7, 0x97⟩, 10, 20⟩], [], [], []⟩

/-- The order, paid two seconds late; the payment was accepted. -/
def accepted : PaymentDb :=
  ⟨[{ order with paidAmountRaw := 100, status := .paid }], unpaid.windows,
    [⟨0xd1, 100, "operator", none⟩],
    [matchedPaymentInput 0xf0 (transfer 12) (candidateFromOrderView order
      ⟨0xd1, 0xc1, ⟨7, 0x97⟩, 10, 20⟩) ⟨9, 0x99⟩ 2], []⟩

/-- A node with the transfer, two blocks below its head. -/
def source (time : Timestamp) : ChainSource where
  latestHead := .ok ⟨9, 0x99⟩
  transferLogs := fun _ => .ok [transfer time]
  blockByNumber := fun n => .ok ⟨n, 0x97, time, [], []⟩

/-- A verification of the order. -/
def verify (db : PaymentDb) (time : Timestamp) :
    Except ManualVerifyError ManualVerifyResult × PaymentDb :=
  verifyOrderInternal ⟨1000, 2⟩ (source time) (fun _ => 0xf1) db db 15 0xd1 (some "merchant")

/-- The payments it finds. -/
def found (time : Timestamp) : List MatchedPaymentInput :=
  [matchedPaymentInput 0xf1 (transfer time) (candidateFromOrderView order
    ⟨0xd1, 0xc1, ⟨7, 0x97⟩, 10, 20⟩) ⟨9, 0x99⟩ 2]

end SmallVerify

open SmallVerify in
/-- An order paid in time is reported as it was stored. -/
theorem reportsStored_of_unpaid :
    ∃ result row, (verify unpaid 10).1 = .ok result
      ∧ (verify unpaid 10).2.orders.filter (fun r => decide (r.id = 0xd1)) = [row]
      ∧ result.Reports row ∧ row.paidAmountRaw = 100 := by
  have hread : matchOrderPayments ⟨1000, 2⟩ (source 10) (fun _ => 0xf1) unpaid 0xd1
      (some "merchant") = .ok (order, found 10, 9) := by decide +kernel
  have hrecord : recordVerifiedPayments unpaid 15 0xd1 (found 10)
      = .ok (found 10, ⟨[{ order with paidAmountRaw := 100, status := .paid }], unpaid.windows, [],
        found 10, []⟩) := by decide +kernel
  obtain ⟨hdb, row, hrow, hiff, -⟩ := reportsStored_iff ⟨1000, 2⟩ (source 10) (fun _ => 0xf1)
    unpaid unpaid 15 0xd1 (some "merchant") hread
    (fun r hr _ => by rw [List.mem_singleton.mp hr]; exact ⟨rfl, rfl⟩) hrecord
  obtain rfl := List.singleton_inj.mp hrow
  exact ⟨⟨0xd1, .confirmed, 1, 100, 3, some 9⟩, _, by decide +kernel, by decide +kernel,
    hiff.mpr (Or.inl (by decide +kernel)) _ (by decide +kernel), rfl⟩

open SmallVerify in
/-- **A verification does not report what was stored** when a problem payment was
accepted: the order stays paid with 100, and the answer is that nothing was. -/
theorem reportsStored_fails :
    ∃ result row, (verify accepted 12).1 = .ok result
      ∧ (verify accepted 12).2.orders.filter (fun r => decide (r.id = 0xd1)) = [row]
      ∧ row.status = .paid ∧ row.paidAmountRaw = 100
      ∧ result.status = .confirming ∧ result.paidAmountRaw = 0 ∧ ¬ result.Reports row := by
  refine ⟨⟨0xd1, .confirming, 1, 0, 3, some 9⟩, { order with paidAmountRaw := 100, status := .paid },
    by decide +kernel, by decide +kernel, rfl, rfl, rfl, rfl, ?_⟩
  rintro ⟨hstatus, -⟩
  cases hstatus
