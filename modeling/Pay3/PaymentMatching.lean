import Pay3.Chain
import Pay3.PaymentRepository

/-!
# Matching transfers to orders

How a `Transfer` event becomes a payment: the log is read from the node and
completed with the header of its block, the order is looked up by the address
the transfer went to, and the payment takes its block from the log and its
status from the head the matcher read.

The receive addresses of orders are unique, so a lookup has at most one
candidate for a log; a log with several, as the code allows for, would be
passed over.
-/

/-! ## From the node's answer to logs -/

/-- The log with the header of its block, which must still be the block the log
names. -/
def attachHeader (chainId : ℕ) (headers : List ChainBlock) (log : ParsedTransferLog) :
    Except ChainError TransferLog :=
  match headers.find? (fun b => decide (b.number = log.blockNumber)) with
  | none => .error (.malformedRpcResponse
      ("missing header for log block " ++ toString log.blockNumber))
  | some header =>
    if header.hash = log.blockHash then .ok ⟨log, chainId, header.timestamp⟩
    else .error (.providerHashMismatch ("eth_getLogs block " ++ toString log.blockNumber)
      log.blockHash header.hash)

/-- The end of `transfer_logs`: every log with its header, in the order of
blocks and log indices. -/
def attachHeaders (chainId : ℕ) (headers : List ChainBlock) (logs : List ParsedTransferLog) :
    Except ChainError (List TransferLog) :=
  (collectOk (attachHeader chainId headers) logs).map (fun completed =>
    completed.insertionSort (fun a b => a.blockNumber < b.blockNumber ∨
      (a.blockNumber = b.blockNumber ∧ a.logIndex ≤ b.logIndex)))

/-- A log keeps everything the node said of it. -/
theorem attachHeader_eq_ok {chainId : ℕ} {headers : List ChainBlock} {log : ParsedTransferLog}
    {completed : TransferLog} (h : attachHeader chainId headers log = .ok completed) :
    completed.toParsedTransferLog = log ∧ completed.chainId = chainId := by
  unfold attachHeader at h
  split at h
  · cases h
  · split at h
    · rw [← Except.ok.inj h]
      exact ⟨rfl, rfl⟩
    · cases h

/-- The completed logs are the logs read. -/
theorem attachHeaders_eq_ok {chainId : ℕ} {headers : List ChainBlock}
    {logs : List ParsedTransferLog} {completed : List TransferLog}
    (h : attachHeaders chainId headers logs = .ok completed) :
    (∀ c ∈ completed, c.toParsedTransferLog ∈ logs ∧ c.chainId = chainId)
      ∧ ∀ log ∈ logs, ∃ c ∈ completed, c.toParsedTransferLog = log ∧ c.chainId = chainId := by
  obtain ⟨read, hread, rfl⟩ := Except.map_eq_ok.mp h
  constructor
  · intro c hc
    obtain ⟨log, hlog, hc⟩ := (mem_collectOk hread).mp ((List.mem_insertionSort _).mp hc)
    obtain ⟨rfl, hid⟩ := attachHeader_eq_ok hc
    exact ⟨hlog, hid⟩
  · intro log hlog
    obtain ⟨c, hc, hf⟩ := exists_of_collectOk hread hlog
    exact ⟨c, (List.mem_insertionSort _).mpr hc, attachHeader_eq_ok hf⟩

/-! ## Windows -/

/-- `PaymentWindowCandidate`. -/
structure PaymentWindowCandidate where
  orderId : Uuid
  childAccountId : Uuid
  receiveAddress : EvmAddress
  chainId : ℕ
  tokenAddress : EvmAddress
  expectedAmountRaw : RawAmount
  paidAmountRaw : RawAmount
  orderStatus : OrderStatus
  windowFromBlock : ChainBlockRef
  expiresAt : Timestamp
  monitorUntil : Timestamp
  deriving DecidableEq

/-- `row_to_payment_window_candidate`, and `candidate_from_order_view`: an order
with its window, if what was paid can be read as an on-chain amount. -/
def paymentWindowCandidate (o : OrderRecord) (w : PaymentWindowRecord) :
    Except RepositoryError PaymentWindowCandidate := do
  let paid ← bigDecimalToRawAmount o.paidAmountRaw
  pure ⟨o.id, o.childAccountId, w.receiveAddress, o.chainId, o.tokenAddress,
    o.expectedAmountRaw, paid, o.status, w.windowFromBlock, w.expiresAt, w.monitorUntil⟩

/-- The windows at some addresses, joined with their orders. -/
def PaymentDb.windowRows (db : PaymentDb) (stream : StreamId) (toAddresses : List EvmAddress) :
    List (OrderRecord × PaymentWindowRecord) :=
  db.windows.flatMap (fun w => (db.orders.filter (fun o => decide (o.id = w.orderId) &&
    decide (o.chainId = stream.chainId) && decide (o.tokenAddress = stream.tokenAddress) &&
    decide (w.receiveAddress ∈ toAddresses))).map (fun o => (o, w)))

/-- **`lookup_payment_window_candidates`**, in the order of address, window and
order. -/
def lookupPaymentWindowCandidates (db : PaymentDb) (stream : StreamId)
    (toAddresses : List EvmAddress) : Except RepositoryError (List PaymentWindowCandidate) :=
  if toAddresses.isEmpty then .ok []
  else do
    let _ ← paymentU64ToI64 stream.chainId "chain_id"
    collectOk (fun row => paymentWindowCandidate row.1 row.2)
      ((db.windowRows stream toAddresses).insertionSort (fun a b =>
        a.2.receiveAddress < b.2.receiveAddress ∨ (a.2.receiveAddress = b.2.receiveAddress ∧
          (a.2.windowFromBlock.number < b.2.windowFromBlock.number ∨
            (a.2.windowFromBlock.number = b.2.windowFromBlock.number ∧ a.1.id ≤ b.1.id)))))

/-! ## The matcher -/

/-- `candidates_for_transfer_log`. -/
def candidatesForTransferLog (stream : StreamId) (log : TransferLog)
    (candidates : List PaymentWindowCandidate) : List PaymentWindowCandidate :=
  candidates.filter (fun c => decide (c.chainId = stream.chainId) &&
    decide (c.tokenAddress = stream.tokenAddress) && decide (c.receiveAddress = log.toAddress) &&
    decide (log.chainId = stream.chainId) && decide (log.tokenAddress = stream.tokenAddress))

/-- `candidate_is_within_monitor_window_transfer`. -/
def candidateIsWithinMonitorWindow (log : TransferLog) (c : PaymentWindowCandidate) : Bool :=
  decide (c.windowFromBlock.number ≤ log.blockNumber) &&
    decide (log.blockTimestamp ≤ c.monitorUntil)

/-- `match_status_transfer`. -/
def matchStatusTransfer (log : TransferLog) (c : PaymentWindowCandidate) : PaymentMatchStatus :=
  if c.windowFromBlock.number ≤ log.blockNumber ∧ log.blockTimestamp ≤ c.expiresAt then .onTime
  else if candidateIsWithinMonitorWindow log c then .late
  else .outsideWindow

/-- The candidate a log is matched to: the only one whose window it is in, or
the only one there is. -/
def selectCandidate (log : TransferLog) (matching : List PaymentWindowCandidate) :
    Option PaymentWindowCandidate :=
  match matching.filter (candidateIsWithinMonitorWindow log) with
  | [c] => some c
  | _ :: _ :: _ => none
  | [] =>
    match matching with
    | [c] => some c
    | _ => none

/-- **`chain_status`**: confirmed as soon as the head is far enough above the
block. -/
def chainStatus (logBlock head : ChainBlockRef) (minConfirmations : ℕ) :
    PaymentChainStatus × ℕ :=
  let confirmations := (logBlock.confirmationsAgainst head).getD 0
  (if minConfirmations = 0 ∨ minConfirmations ≤ confirmations then .confirmed else .observed,
    confirmations)

/-- A payment is born confirmed only under enough confirmations, and never
orphaned. -/
theorem chainStatus_fst {logBlock head : ChainBlockRef} {minConfirmations : ℕ} :
    ((chainStatus logBlock head minConfirmations).1 = .confirmed
        ↔ logBlock.hasConfirmations head minConfirmations = true)
      ∧ (chainStatus logBlock head minConfirmations).1 ≠ .orphaned := by
  unfold chainStatus ChainBlockRef.hasConfirmations
  dsimp only
  by_cases h0 : minConfirmations = 0
  · simp [h0]
  · cases hc : logBlock.confirmationsAgainst head with
    | none =>
      rw [if_neg (by simp [h0])]
      simp [h0]
    | some n =>
      by_cases hn : minConfirmations ≤ n
      · rw [if_pos (by simp [hn])]
        simp [hn]
      · rw [if_neg (by simp [h0, hn])]
        simp [h0, hn]

/-- `matched_payment_input_from_transfer_log`, under a new id. -/
def matchedPaymentInput (id : Uuid) (log : TransferLog) (c : PaymentWindowCandidate)
    (head : ChainBlockRef) (minConfirmations : ℕ) : MatchedPaymentInput :=
  let status := chainStatus ⟨log.blockNumber, log.blockHash⟩ head minConfirmations
  { id := id
    orderId := c.orderId
    childAccountId := c.childAccountId
    chainId := log.chainId
    tokenAddress := log.tokenAddress
    txHash := log.txHash
    logIndex := log.logIndex
    fromAddress := log.fromAddress
    toAddress := log.toAddress
    amountRaw := log.amountRaw
    blockNumber := log.blockNumber
    blockHash := log.blockHash
    blockTime := log.blockTimestamp
    confirmations := status.2
    matchStatus := matchStatusTransfer log c
    chainStatus := status.1 }

/-- **`match_transfer_logs`**: one payment for each log with a candidate. -/
def matchTransferLogs (stream : StreamId) (minConfirmations : ℕ) (logs : List TransferLog)
    (candidates : List PaymentWindowCandidate) (head : ChainBlockRef) (newId : ℕ → Uuid) :
    List MatchedPaymentInput :=
  logs.zipIdx.filterMap (fun entry =>
    (selectCandidate entry.1 (candidatesForTransferLog stream entry.1 candidates)).map
      (fun c => matchedPaymentInput (newId entry.2) entry.1 c head minConfirmations))

/-- A candidate selected is one of those offered. -/
theorem mem_of_selectCandidate {log : TransferLog} {matching : List PaymentWindowCandidate}
    {c : PaymentWindowCandidate} (h : selectCandidate log matching = some c) : c ∈ matching := by
  unfold selectCandidate at h
  split at h
  next c' heq =>
    rw [← Option.some.inj h]
    exact List.mem_of_mem_filter (heq ▸ List.mem_singleton_self c')
  next => cases h
  next =>
    split at h
    · rw [← Option.some.inj h]
      exact List.mem_singleton_self _
    · cases h

/-- A log with one candidate is matched to it, in its window or not. -/
theorem selectCandidate_singleton (log : TransferLog) (c : PaymentWindowCandidate) :
    selectCandidate log [c] = some c := by
  unfold selectCandidate
  by_cases h : candidateIsWithinMonitorWindow log c = true
  · rw [List.filter_cons_of_pos h]
    rfl
  · rw [List.filter_cons_of_neg h]
    rfl

/-- **Where a matched payment comes from.** -/
theorem mem_matchTransferLogs {stream : StreamId} {minConfirmations : ℕ} {logs : List TransferLog}
    {candidates : List PaymentWindowCandidate} {head : ChainBlockRef} {newId : ℕ → Uuid}
    {m : MatchedPaymentInput}
    (h : m ∈ matchTransferLogs stream minConfirmations logs candidates head newId) :
    ∃ log ∈ logs, ∃ c ∈ candidates, ∃ id, m = matchedPaymentInput id log c head minConfirmations
      ∧ log.chainId = stream.chainId ∧ log.tokenAddress = stream.tokenAddress := by
  obtain ⟨⟨log, i⟩, hlog, hm⟩ := List.mem_filterMap.mp h
  obtain ⟨c, hc, rfl⟩ := Option.map_eq_some_iff.mp hm
  obtain ⟨hmem, hcond⟩ := List.mem_filter.mp (mem_of_selectCandidate hc)
  simp only [Bool.and_eq_true, decide_eq_true_eq] at hcond
  have hin : log ∈ logs := (List.mem_zipIdx' hlog).2 ▸ List.getElem_mem _
  exact ⟨log, hin, c, hmem, newId i, rfl, hcond.1.2, hcond.2⟩

/-- A payment is confirmed from the start only under enough confirmations. -/
theorem hasConfirmations_of_matched {id : Uuid} {log : TransferLog} {c : PaymentWindowCandidate}
    {head : ChainBlockRef} {minConfirmations : ℕ}
    (h : (matchedPaymentInput id log c head minConfirmations).chainStatus = .confirmed) :
    (matchedPaymentInput id log c head minConfirmations).block.hasConfirmations head
      minConfirmations = true :=
  chainStatus_fst.1.mp h
