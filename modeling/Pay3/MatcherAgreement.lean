import Pay3.PaymentMatching

/-!
# One rule, written three times

When a transfer counts as on time is decided by `match_transfer_logs` for logs
read from the node, by `match_stored_transfer_logs` for logs read from a store,
and once more by the `CASE` of the upsert. This module has the second of them
as the source has it, with its loop over the logs and its list of rejections,
and shows that the three agree: the same logs give the same payments in the same
order, and the status in the table is the one that was computed.
-/

/-! ## Stored logs -/

/-- `StoredTransferLog`. -/
structure StoredTransferLog where
  chainId : ℕ
  tokenAddress : EvmAddress
  blockNumber : ℕ
  blockHash : BlockHash
  blockTimestamp : Timestamp
  txHash : TxHash
  txIndex : Option ℕ
  logIndex : ℕ
  fromAddress : EvmAddress
  toAddress : EvmAddress
  amountRaw : RawAmount
  removed : Bool
  observedAt : Timestamp
  deriving DecidableEq

/-- `stored_log`: the stored form of a log, with the time of its block. -/
def storedLog (log : TransferLog) (blockTimestamp observedAt : Timestamp) : StoredTransferLog where
  chainId := log.chainId
  tokenAddress := log.tokenAddress
  blockNumber := log.blockNumber
  blockHash := log.blockHash
  blockTimestamp := blockTimestamp
  txHash := log.txHash
  txIndex := none
  logIndex := log.logIndex
  fromAddress := log.fromAddress
  toAddress := log.toAddress
  amountRaw := log.amountRaw
  removed := false
  observedAt := observedAt

/-- `LogPageToken`. -/
structure LogPageToken where
  blockNumber : ℕ
  logIndex : ℕ
  deriving DecidableEq

/-- `PaymentRejectionReason`. -/
inductive PaymentRejectionReason
  | removedLog | ambiguousCandidates
  deriving DecidableEq, Repr

/-- `RejectedPaymentLog`. -/
structure RejectedPaymentLog where
  txHash : TxHash
  logIndex : ℕ
  toAddress : EvmAddress
  reason : PaymentRejectionReason
  deriving DecidableEq

/-- `StoredPaymentMatchInput`. -/
structure StoredPaymentMatchInput where
  logs : List StoredTransferLog
  candidates : List PaymentWindowCandidate
  head : ChainBlockRef
  nextToken : Option LogPageToken
  completeToBlock : Option ℕ
  kvReorgEpoch : ℕ

/-- `PaymentMatchPage`. -/
structure PaymentMatchPage where
  matchedPayments : List MatchedPaymentInput
  rejected : List RejectedPaymentLog
  nextToken : Option LogPageToken
  completeToBlock : Option ℕ
  kvReorgEpoch : ℕ
  deriving DecidableEq

/-! ## The matcher over stored logs -/

/-- `by_address.entry(candidate.receive_address).or_default().push(candidate)`. -/
def pushCandidate (byAddress : List (EvmAddress × List PaymentWindowCandidate))
    (c : PaymentWindowCandidate) : List (EvmAddress × List PaymentWindowCandidate) :=
  match byAddress with
  | [] => [(c.receiveAddress, [c])]
  | (address, cs) :: rest =>
    if address = c.receiveAddress then (address, cs ++ [c]) :: rest
    else (address, cs) :: pushCandidate rest c

/-- `group_candidates_by_address`. -/
def groupCandidatesByAddress (candidates : List PaymentWindowCandidate) :
    List (EvmAddress × List PaymentWindowCandidate) :=
  candidates.foldl pushCandidate []

/-- `candidates_by_address.get(&address)`. -/
def candidatesAt (byAddress : List (EvmAddress × List PaymentWindowCandidate))
    (address : EvmAddress) : Option (List PaymentWindowCandidate) :=
  (byAddress.find? (fun entry => decide (entry.1 = address))).map Prod.snd

/-- `candidates_for_log`. -/
def candidatesForLog (stream : StreamId) (log : StoredTransferLog)
    (candidates : List PaymentWindowCandidate) : List PaymentWindowCandidate :=
  candidates.filter (fun c => decide (c.chainId = stream.chainId) &&
    decide (c.tokenAddress = stream.tokenAddress) && decide (c.receiveAddress = log.toAddress) &&
    decide (log.chainId = stream.chainId) && decide (log.tokenAddress = stream.tokenAddress))

/-- `candidate_is_within_monitor_window`. -/
def storedCandidateIsWithinMonitorWindow (log : StoredTransferLog) (c : PaymentWindowCandidate) :
    Bool :=
  decide (c.windowFromBlock.number ≤ log.blockNumber) &&
    decide (log.blockTimestamp ≤ c.monitorUntil)

/-- `match_status`. -/
def matchStatus (log : StoredTransferLog) (c : PaymentWindowCandidate) : PaymentMatchStatus :=
  if c.windowFromBlock.number ≤ log.blockNumber ∧ log.blockTimestamp ≤ c.expiresAt then .onTime
  else if storedCandidateIsWithinMonitorWindow log c then .late
  else .outsideWindow

/-- `matched_payment_input`, under a new id. -/
def storedMatchedPaymentInput (id : Uuid) (log : StoredTransferLog) (c : PaymentWindowCandidate)
    (head : ChainBlockRef) (minConfirmations : ℕ) : MatchedPaymentInput :=
  let status := chainStatus ⟨log.blockNumber, log.blockHash⟩ head minConfirmations
  { id := id
    orderId := c.orderId
    childAccountId := c.childAccountId
    chainId := log.chainId
    tokenAddress := log.tokenAddress
    txHash := log.txHash
    logIndex := log.logIndex
    fromAddress := log.fromAddress
    toAddress := log.toAddress
    amountRaw := log.amountRaw
    blockNumber := log.blockNumber
    blockHash := log.blockHash
    blockTime := log.blockTimestamp
    confirmations := status.2
    matchStatus := matchStatus log c
    chainStatus := status.1 }

/-- `rejected_log`. -/
def rejectedLog (log : StoredTransferLog) (reason : PaymentRejectionReason) : RejectedPaymentLog :=
  ⟨log.txHash, log.logIndex, log.toAddress, reason⟩

/-- The candidate a stored log is matched to, or why there is none. -/
def selectStoredCandidate (log : StoredTransferLog) (matching : List PaymentWindowCandidate) :
    Except PaymentRejectionReason PaymentWindowCandidate :=
  match matching.filter (storedCandidateIsWithinMonitorWindow log) with
  | [c] => .ok c
  | _ :: _ :: _ => .error .ambiguousCandidates
  | [] =>
    match matching with
    | [c] => .ok c
    | _ => .error .ambiguousCandidates

section Loop

variable (stream : StreamId) (minConfirmations : ℕ)
  (byAddress : List (EvmAddress × List PaymentWindowCandidate)) (head : ChainBlockRef)
  (newId : ℕ → Uuid)

/-- One turn of the loop. -/
def matchStoredLog (page : PaymentMatchPage) (log : StoredTransferLog) : PaymentMatchPage :=
  if log.removed then { page with rejected := page.rejected ++ [rejectedLog log .removedLog] }
  else match candidatesAt byAddress log.toAddress with
    | none => page
    | some candidates =>
      let matching := candidatesForLog stream log candidates
      if matching.isEmpty then page
      else match selectStoredCandidate log matching with
        | .ok c => { page with
            matchedPayments := page.matchedPayments ++ [storedMatchedPaymentInput
              (newId page.matchedPayments.length) log c head minConfirmations] }
        | .error reason => { page with rejected := page.rejected ++ [rejectedLog log reason] }

end Loop

/-- **`match_stored_transfer_logs`.** -/
def matchStoredTransferLogs (stream : StreamId) (minConfirmations : ℕ)
    (input : StoredPaymentMatchInput) (newId : ℕ → Uuid) : PaymentMatchPage :=
  input.logs.foldl
    (matchStoredLog stream minConfirmations (groupCandidatesByAddress input.candidates) input.head
      newId)
    ⟨[], [], input.nextToken, input.completeToBlock, input.kvReorgEpoch⟩

/-! ## Candidates by address -/

/-- A candidate is pushed to the end of those at its address. -/
theorem candidatesAt_pushCandidate (byAddress : List (EvmAddress × List PaymentWindowCandidate))
    (c : PaymentWindowCandidate) (address : EvmAddress) :
    (candidatesAt (pushCandidate byAddress c) address).getD []
      = (candidatesAt byAddress address).getD []
        ++ (if c.receiveAddress = address then [c] else []) := by
  induction byAddress with
  | nil =>
    by_cases h : c.receiveAddress = address <;> simp [pushCandidate, candidatesAt, h]
  | cons entry rest ih =>
    obtain ⟨a, cs⟩ := entry
    unfold pushCandidate
    by_cases ha : a = c.receiveAddress
    · rw [if_pos ha]
      by_cases h : a = address
      · simp [candidatesAt, h, ← ha]
      · rw [if_neg (fun hc => h (ha.trans hc)), List.append_nil]
        simp [candidatesAt, h]
    · rw [if_neg ha]
      by_cases h : a = address
      · rw [if_neg (fun hc => ha (h.trans hc.symm)), List.append_nil]
        simp [candidatesAt, h]
      · have hskip : ∀ l, candidatesAt ((a, cs) :: l) address = candidatesAt l address := by
          intro l
          simp [candidatesAt, h]
        rw [hskip, hskip, ih]

/-- **The candidates at an address are those with that address**, in their order. -/
theorem candidatesAt_group (candidates : List PaymentWindowCandidate) (address : EvmAddress) :
    (candidatesAt (groupCandidatesByAddress candidates) address).getD []
      = candidates.filter (fun c => decide (c.receiveAddress = address)) := by
  have hfold : ∀ (cs : List PaymentWindowCandidate)
      (byAddress : List (EvmAddress × List PaymentWindowCandidate)),
      (candidatesAt (cs.foldl pushCandidate byAddress) address).getD []
        = (candidatesAt byAddress address).getD []
          ++ cs.filter (fun c => decide (c.receiveAddress = address)) := by
    intro cs
    induction cs with
    | nil => simp
    | cons c cs ih =>
      intro byAddress
      rw [List.foldl_cons, ih, candidatesAt_pushCandidate, List.append_assoc, List.filter_cons]
      by_cases h : c.receiveAddress = address <;> simp [h]
  exact hfold candidates []

/-! ## The two matchers -/

/-- A payment without its random id. -/
def PaymentRecord.anonymous (p : PaymentRecord) : PaymentRecord := { p with id := 0 }

section Agreement

variable {stream : StreamId} {minConfirmations : ℕ} {head : ChainBlockRef}

/-- The payment a log of the node gives, without its id. -/
def anonymousPayment (stream : StreamId) (minConfirmations : ℕ)
    (candidates : List PaymentWindowCandidate) (head : ChainBlockRef) (log : TransferLog) :
    Option PaymentRecord :=
  (selectCandidate log (candidatesForTransferLog stream log candidates)).map
    (fun c => matchedPaymentInput 0 log c head minConfirmations)

/-- What the matcher over logs of the node yields, up to ids. -/
theorem anonymous_matchTransferLogs (logs : List TransferLog)
    (candidates : List PaymentWindowCandidate) (newId : ℕ → Uuid) :
    (matchTransferLogs stream minConfirmations logs candidates head newId).map
        PaymentRecord.anonymous
      = logs.filterMap (anonymousPayment stream minConfirmations candidates head) := by
  unfold matchTransferLogs
  rw [List.map_filterMap]
  have hforget : ∀ entry : TransferLog × ℕ,
      ((selectCandidate entry.1 (candidatesForTransferLog stream entry.1 candidates)).map
          (fun c => matchedPaymentInput (newId entry.2) entry.1 c head minConfirmations)).map
        PaymentRecord.anonymous
        = anonymousPayment stream minConfirmations candidates head entry.1 := by
    intro entry
    rw [Option.map_map]
    rfl
  rw [funext hforget]
  calc logs.zipIdx.filterMap
        (fun entry => anonymousPayment stream minConfirmations candidates head entry.1)
      = (logs.zipIdx.map Prod.fst).filterMap
          (anonymousPayment stream minConfirmations candidates head) := by
        rw [List.filterMap_map]
        rfl
    _ = _ := by rw [List.zipIdx_map_fst]

/-- The window is the same for a log and its stored form. -/
theorem storedCandidate_storedLog (log : TransferLog) (observedAt : Timestamp) :
    storedCandidateIsWithinMonitorWindow (storedLog log log.blockTimestamp observedAt)
      = candidateIsWithinMonitorWindow log := rfl

/-- The candidate is the same for a log and its stored form. -/
theorem toOption_selectStoredCandidate (log : TransferLog) (observedAt : Timestamp)
    (matching : List PaymentWindowCandidate) :
    (selectStoredCandidate (storedLog log log.blockTimestamp observedAt) matching).toOption
      = selectCandidate log matching := by
  unfold selectStoredCandidate selectCandidate
  rw [storedCandidate_storedLog]
  cases hwithin : matching.filter (candidateIsWithinMonitorWindow log) with
  | nil =>
    match matching with
    | [] => rfl
    | [_] => rfl
    | _ :: _ :: _ => rfl
  | cons c rest =>
    cases rest with
    | nil => rfl
    | cons _ _ => rfl

/-- Grouping by address first makes no difference. -/
theorem candidatesForLog_group (log : TransferLog) (observedAt : Timestamp)
    (candidates : List PaymentWindowCandidate) :
    candidatesForLog stream (storedLog log log.blockTimestamp observedAt)
        ((candidatesAt (groupCandidatesByAddress candidates) log.toAddress).getD [])
      = candidatesForTransferLog stream log candidates := by
  rw [candidatesAt_group]
  unfold candidatesForLog candidatesForTransferLog
  rw [List.filter_filter]
  refine List.filter_congr (fun c _ => ?_)
  show (decide (c.chainId = stream.chainId) && decide (c.tokenAddress = stream.tokenAddress) &&
    decide (c.receiveAddress = log.toAddress) && decide (log.chainId = stream.chainId) &&
    decide (log.tokenAddress = stream.tokenAddress) && decide (c.receiveAddress = log.toAddress)) = _
  by_cases h : c.receiveAddress = log.toAddress <;> simp [h]

/-- **One turn of the loop** adds the payment of the log, if it has one. -/
theorem anonymous_matchStoredLog (candidates : List PaymentWindowCandidate) (newId : ℕ → Uuid)
    (page : PaymentMatchPage) (log : TransferLog) (observedAt : Timestamp) :
    (matchStoredLog stream minConfirmations (groupCandidatesByAddress candidates) head newId page
        (storedLog log log.blockTimestamp observedAt)).matchedPayments.map PaymentRecord.anonymous
      = page.matchedPayments.map PaymentRecord.anonymous
        ++ (anonymousPayment stream minConfirmations candidates head log).toList := by
  have hmatching := @candidatesForLog_group stream log observedAt candidates
  have hselect := toOption_selectStoredCandidate log observedAt
    (candidatesForTransferLog stream log candidates)
  unfold matchStoredLog anonymousPayment
  rw [if_neg (by simp [storedLog])]
  show (match candidatesAt (groupCandidatesByAddress candidates) log.toAddress with
    | none => page
    | some cs => _).matchedPayments.map PaymentRecord.anonymous = _
  cases hat : candidatesAt (groupCandidatesByAddress candidates) log.toAddress with
  | none =>
    rw [hat, Option.getD_none] at hmatching
    rw [← hmatching]
    simp [candidatesForLog, selectCandidate]
  | some cs =>
    rw [hat, Option.getD_some] at hmatching
    dsimp only
    rw [hmatching]
    cases hempty : (candidatesForTransferLog stream log candidates).isEmpty with
    | true =>
      rw [List.isEmpty_iff.mp hempty]
      simp [selectCandidate]
    | false =>
      rw [if_neg (by simp)]
      cases hsel : selectStoredCandidate (storedLog log log.blockTimestamp observedAt)
          (candidatesForTransferLog stream log candidates) with
      | error reason =>
        rw [hsel] at hselect
        rw [← hselect]
        simp [Except.toOption]
      | ok c =>
        rw [hsel] at hselect
        rw [← hselect]
        simp only [List.map_append, Except.toOption, Option.map_some, Option.toList_some]
        rfl

/-- What the matcher over stored logs yields, up to ids. -/
theorem anonymous_matchStoredTransferLogs (logs : List TransferLog)
    (observedAt : TransferLog → Timestamp)
    (candidates : List PaymentWindowCandidate) (newId : ℕ → Uuid) (nextToken : Option LogPageToken)
    (completeToBlock : Option ℕ) (kvReorgEpoch : ℕ) :
    (matchStoredTransferLogs stream minConfirmations
        ⟨logs.map (fun log => storedLog log log.blockTimestamp (observedAt log)), candidates, head,
          nextToken, completeToBlock, kvReorgEpoch⟩ newId).matchedPayments.map
        PaymentRecord.anonymous
      = logs.filterMap (anonymousPayment stream minConfirmations candidates head) := by
  have hloop : ∀ (logs : List TransferLog) (page : PaymentMatchPage),
      ((logs.map (fun log => storedLog log log.blockTimestamp (observedAt log))).foldl
          (matchStoredLog stream minConfirmations (groupCandidatesByAddress candidates) head newId)
          page).matchedPayments.map PaymentRecord.anonymous
        = page.matchedPayments.map PaymentRecord.anonymous
          ++ logs.filterMap (anonymousPayment stream minConfirmations candidates head) := by
    intro logs
    induction logs with
    | nil => simp
    | cons log logs ih =>
      intro page
      rw [List.map_cons, List.foldl_cons, ih, anonymous_matchStoredLog, List.append_assoc,
        List.filterMap_cons]
      cases anonymousPayment stream minConfirmations candidates head log <;> rfl
  exact hloop logs _

/-! ## The matcher and the table -/

/-- The windows the candidate and the row have are the same. -/
def PaymentWindowCandidate.SameWindow (c : PaymentWindowCandidate) (w : PaymentWindowRecord) :
    Prop :=
  c.windowFromBlock.number = w.windowFromBlock.number ∧ c.expiresAt = w.expiresAt
    ∧ c.monitorUntil = w.monitorUntil

/-- The `CASE` of the upsert is the rule of the matcher. -/
theorem matchStatusTransfer_eq {log : TransferLog} {c : PaymentWindowCandidate}
    {w : PaymentWindowRecord} (h : c.SameWindow w) :
    w.matchStatus log.blockNumber log.blockTimestamp = matchStatusTransfer log c := by
  obtain ⟨hfrom, hexpires, hmonitor⟩ := h
  unfold PaymentWindowRecord.matchStatus matchStatusTransfer candidateIsWithinMonitorWindow
  rw [← hfrom, ← hexpires, ← hmonitor]
  simp only [Bool.and_eq_true, decide_eq_true_eq]

/-- The upsert of a matched payment stores the status that was computed. -/
theorem matchStatus_of_upsert {log : TransferLog} {c : PaymentWindowCandidate} {id : Uuid}
    {db db' : PaymentDb} {o : OrderRecord} {w : PaymentWindowRecord} {record : PaymentRecord}
    (how : db.matchedOrder stream (matchedPaymentInput id log c head minConfirmations)
      = some (o, w))
    (hw : c.SameWindow w)
    (h : upsertMatchedPaymentTx db stream (matchedPaymentInput id log c head minConfirmations)
      = .ok (record, db')) :
    record.matchStatus = (matchedPaymentInput id log c head minConfirmations).matchStatus := by
  obtain ⟨o', w', how', -, hrecord, -⟩ := upsertMatchedPaymentTx_eq_ok h
  obtain ⟨rfl, rfl⟩ := Prod.mk.inj (Option.some.inj (how.symm.trans how'))
  rw [hrecord]
  exact matchStatusTransfer_eq hw

end Agreement

/-- **The two matchers and the table agree.** The logs of the node and the same
logs read back from the store give the same payments in the same order, their
ids apart, and a payment whose candidate has the window of the table is stored
under the status that was computed for it. -/
theorem matchers_agree (stream : StreamId) (minConfirmations : ℕ) (logs : List TransferLog)
    (candidates : List PaymentWindowCandidate) (head : ChainBlockRef)
    (observedAt : TransferLog → Timestamp) (nextToken : Option LogPageToken)
    (completeToBlock : Option ℕ) (kvReorgEpoch : ℕ) (newId newId' : ℕ → Uuid) :
    (matchTransferLogs stream minConfirmations logs candidates head newId).map
        PaymentRecord.anonymous
      = (matchStoredTransferLogs stream minConfirmations
          ⟨logs.map (fun log => storedLog log log.blockTimestamp (observedAt log)), candidates,
            head, nextToken, completeToBlock, kvReorgEpoch⟩ newId').matchedPayments.map
          PaymentRecord.anonymous
    ∧ ∀ log ∈ logs, ∀ c,
      selectCandidate log (candidatesForTransferLog stream log candidates) = some c →
      ∀ id db o w record db',
        db.matchedOrder stream (matchedPaymentInput id log c head minConfirmations) = some (o, w) →
        c.SameWindow w →
        upsertMatchedPaymentTx db stream (matchedPaymentInput id log c head minConfirmations)
          = .ok (record, db') →
        record.matchStatus
          = (matchedPaymentInput id log c head minConfirmations).matchStatus := by
  refine ⟨?_, fun log _ c _ id db o w record db' how hw h => matchStatus_of_upsert how hw h⟩
  rw [anonymous_matchTransferLogs, anonymous_matchStoredTransferLogs]

namespace SmallMatch

/-- The token. -/
def stream : StreamId := ⟨1, 0x70⟩

/-- A transfer in the last second of the window of an order. -/
def log : TransferLog := ⟨⟨⟨0x70, 0xa1, 0, 0xf1, 0xc1, 100⟩, 7, 0x97⟩, 1, 10⟩

/-- An order with its window. -/
def db : PaymentDb :=
  ⟨[⟨0xd1, "merchant", 0xe1, 0xc1, 1, 0x70, 100, 0, .pending, 10, 20⟩],
    [⟨0xd1, 0xc1, ⟨7, 0x97⟩, 10, 20⟩], [], [], []⟩

/-- The candidate the order is looked up as. -/
def candidate : PaymentWindowCandidate :=
  ⟨0xd1, 0xe1, 0xc1, 1, 0x70, 100, 0, .pending, ⟨7, 0x97⟩, 10, 20⟩

end SmallMatch

open SmallMatch in
/-- A transfer at the very end of a window is on time for all three. -/
theorem matchers_agree_at_expiry :
    ((upsertMatchedPaymentTx db stream (matchedPaymentInput 0xf0 log candidate ⟨9, 0x99⟩ 2)).map
      (fun r => r.1.matchStatus)).toOption = some .onTime
    ∧ (matchedPaymentInput 0xf0 log candidate ⟨9, 0x99⟩ 2).matchStatus = .onTime := by
  obtain ⟨-, htable⟩ := matchers_agree stream 2 [log] [candidate] ⟨9, 0x99⟩ (fun _ => 11) none none 0
    (fun _ => 0xf0) (fun _ => 0xf1)
  have hstatus : (matchedPaymentInput 0xf0 log candidate ⟨9, 0x99⟩ 2).matchStatus = .onTime := by
    decide +kernel
  refine ⟨?_, hstatus⟩
  cases h : upsertMatchedPaymentTx db stream
      (matchedPaymentInput 0xf0 log candidate ⟨9, 0x99⟩ 2) with
  | error e =>
    have hok : (upsertMatchedPaymentTx db stream
        (matchedPaymentInput 0xf0 log candidate ⟨9, 0x99⟩ 2)).toOption.isSome = true := by
      decide +kernel
    rw [h] at hok
    cases hok
  | ok r =>
    have hrow := htable log (by simp) candidate (by decide +kernel) 0xf0 db
      ⟨0xd1, "merchant", 0xe1, 0xc1, 1, 0x70, 100, 0, .pending, 10, 20⟩
      ⟨0xd1, 0xc1, ⟨7, 0x97⟩, 10, 20⟩ r.1 r.2 (by decide +kernel) ⟨rfl, rfl, rfl⟩ h
    exact congrArg some (hrow.trans hstatus)
