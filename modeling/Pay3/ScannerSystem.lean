import Pay3.PaymentMatching
import Pay3.Runs
import Mathlib.Logic.Function.Basic

/-!
# The payment scanner as a system of workers

Any number of scanner workers and manual verifications over one database.
Every transaction or read of the repositories is one step, and so is every
call to the node; a worker may stop between any two of them for as long as the
schedule likes, or for good (`abort`, which also stands for a call that
fails). The canonical chain moves on its own.

A program counter holds what the source keeps in local variables at that
point. Which chain `eth_getLogs` answered from is among them (`Scan.source`):
what the logs say is a function of it.

The state also keeps what no step reads: the chains that were canonical at some
moment since each worker began what it is doing.
-/

/-- The errors of the matcher. -/
inductive PaymentMatchingError
  | invalidConfig (field : String)
  | uniqueAddressLimitExceeded (actual max : ℕ)
  | chain (error : ChainError)
  | paymentWindowLookup (field message : String)
  | repository (error : RepositoryError)
  deriving DecidableEq

/-- **The errors of a tick.** -/
inductive PaymentScannerError
  | invalidConfig (field message : String)
  | leaseTimestampOverflow
  | canonicalBlockHashMismatch (blockNumber : ℕ) (storedHash canonicalHash : BlockHash)
  | repository (error : RepositoryError)
  | paymentMatching (error : PaymentMatchingError)
  | chain (error : ChainError)
  deriving DecidableEq

/-- `PaymentScannerTickOutcome`. -/
inductive PaymentScannerTickOutcome
  | leaseHeld (stream : StreamId) (workerId : String)
  | kvReorgHandled (stream : StreamId) (epoch lastReorgFrom : ℕ)
  | idle (stream : StreamId) (lastScannedBlock targetBlock : ℕ)
  | committed (stream : StreamId) (completeToBlock matchedPayments : ℕ)
      (recomputeOrderIds : List Uuid) (records : List PaymentRecord)
  | confirmationsSwept (stream : StreamId) (canonicalHead : ChainBlockRef)
      (confirmedPayments : ℕ) (recomputeOrderIds : List Uuid) (records : List PaymentRecord)
  deriving DecidableEq

/-- `PaymentScannerConfig`, with the configuration of its matcher. -/
structure PaymentScannerConfig where
  workerId : String
  stream : StreamId
  leaseDuration : Timestamp
  batchSizeBlocks : ℕ
  maxBatchSizeBlocks : ℕ
  confirmationSweepLimit : ℕ
  matcherStream : StreamId
  minConfirmations : ℕ
  maxUniqueToAddressesPerBatch : ℕ
  maxFallbackAddresses : ℕ
  deriving DecidableEq

/-- `validate`. -/
def PaymentScannerConfig.validate (cfg : PaymentScannerConfig) : Except PaymentScannerError Unit := do
  ensure (decide (trimText cfg.workerId ≠ "")) (.invalidConfig "worker_id" "must not be empty")
  ensure (decide (0 < cfg.leaseDuration)) (.invalidConfig "lease_duration" "must be positive")
  ensure (decide (cfg.confirmationSweepLimit ≠ 0))
    (.invalidConfig "confirmation_sweep_limit" "must be greater than zero")
  ensure (decide (cfg.batchSizeBlocks ≠ 0))
    (.invalidConfig "batch_size_blocks" "must be greater than zero")
  ensure (decide (cfg.stream = cfg.matcherStream))
    (.invalidConfig "stream" "scanner stream must match matcher stream")

/-- The last instant an `OffsetDateTime` holds, at the end of the year 9999. -/
def maxTimestamp : Timestamp := 253402300799999999

/-- `max_confirmable_block`. -/
def maxConfirmableBlock (canonicalHead : ChainBlockRef) (minConfirmations : ℕ) : Option ℕ :=
  if minConfirmations = 0 then some canonicalHead.number
  else if minConfirmations - 1 ≤ canonicalHead.number
    then some (canonicalHead.number - (minConfirmations - 1))
  else none

/-- The last block of the range a tick scans. -/
def PaymentScannerConfig.toBlock (cfg : PaymentScannerConfig) (fromBlock targetBlock : ℕ) : ℕ :=
  let batchSize := max (min cfg.batchSizeBlocks cfg.maxBatchSizeBlocks) 1
  min (min (fromBlock + batchSize) u64Max - 1) targetBlock

/-- `recompute_order_ids`. -/
def recomputeOrderIds (payments : List PaymentRecord) : List Uuid :=
  sortedSet (payments.map PaymentRecord.orderId)

/-! ## Program counters -/

/-- What a tick has settled before it sweeps or scans. -/
structure Tick where
  lease : ScanCursorLease
  targetBlock : ℕ
  deriving DecidableEq

/-- A scan under way: the lease it runs under, the last block of its range, and
the chain its logs were read from. -/
structure Scan where
  lease : ScanCursorLease
  toBlock : ℕ
  source : CanonicalChain

/-- The blocks a scan covers. -/
def Scan.range (scan : Scan) (stream : StreamId) : TransferLogRange :=
  ⟨stream.chainId, stream.tokenAddress, scan.lease.lastScannedBlock + 1, scan.toBlock, none⟩

/-- The logs it read. -/
def Scan.logs (scan : Scan) (stream : StreamId) : List ParsedTransferLog :=
  scan.source.getLogs (scan.range stream)

/-- **Where a scanner stands.** -/
inductive ScannerPc
  /-- Between two ticks, with the result of the last one. -/
  | waiting (result : Option (Except PaymentScannerError PaymentScannerTickOutcome))
  | claimed (lease : ScanCursorLease)
  | targeted (tick : Tick)
  | sweeping (tick : Tick) (head : ChainBlockRef) (maxBlockNumber : ℕ)
  /-- In the loop of `canonical_confirmable_payment_ids`. -/
  | checking (tick : Tick) (head : ChainBlockRef) (candidates todo : List PaymentConfirmationCandidate)
      (canonicalBlocks : List ChainBlockRef) (paymentIds : List Uuid)
  | confirming (tick : Tick) (head : ChainBlockRef) (candidates : List PaymentConfirmationCandidate)
      (paymentIds : List Uuid)
  /-- The sweep found a block replaced. -/
  | mismatched (blockNumber : ℕ)
  | healing (blockNumber nextEpoch : ℕ)
  | scanning (tick : Tick)
  /-- Fetching the headers of the blocks with logs. -/
  | fetching (scan : Scan) (pending : List ℕ) (headers : List ChainBlock)
  | fetched (scan : Scan) (logs : List TransferLog)
  | matching (scan : Scan) (logs : List TransferLog) (head : ChainBlockRef)
  | committing (scan : Scan) (head : ChainBlockRef) (matched : List MatchedPaymentInput)

/-- The inputs of one step: the clocks, the ids drawn, and which header the node
answers next. -/
structure StepInput where
  clockNow : Timestamp
  now : Timestamp
  newId : ℕ → Uuid
  block : ℕ

/-- A tick that fails. -/
def ScannerPc.failed (e : PaymentScannerError) : ScannerPc := .waiting (some (.error e))

/-- A tick that ends. -/
def ScannerPc.done (outcome : PaymentScannerTickOutcome) : ScannerPc := .waiting (some (.ok outcome))

/-! ## One step of a scanner -/

section scanner

variable (cfg : PaymentScannerConfig) (db : PaymentDb) (chain : CanonicalChain) (input : StepInput)

/-- The start of a tick, up to the claim. -/
def beginTick : PaymentDb × ScannerPc :=
  match cfg.validate with
  | .error e => (db, .failed e)
  | .ok () =>
    let leaseUntil := input.clockNow + cfg.leaseDuration
    if maxTimestamp < leaseUntil then (db, .failed .leaseTimestampOverflow)
    else match claimScanRange db input.now cfg.workerId cfg.stream leaseUntil with
      | .error e => (db, .failed (.repository e))
      | .ok (none, db') => (db', .done (.leaseHeld cfg.stream cfg.workerId))
      | .ok (some lease, db') => (db', .claimed lease)

/-- A sweep begins with the head, and with the highest block it may confirm. -/
def beginSweep (tick : Tick) : ScannerPc :=
  match maxConfirmableBlock chain.latestHead cfg.minConfirmations with
  | none => .scanning tick
  | some maxBlockNumber => .sweeping tick chain.latestHead maxBlockNumber

/-- The candidates of a sweep are read; without any, the tick goes on to scan. -/
def readCandidates (tick : Tick) (head : ChainBlockRef) (maxBlockNumber : ℕ) : ScannerPc :=
  match observedPaymentConfirmationCandidates db cfg.stream maxBlockNumber
      cfg.confirmationSweepLimit with
  | .error e => .failed (.repository e)
  | .ok [] => .scanning tick
  | .ok (c :: cs) => .checking tick head (c :: cs) (c :: cs) [] []

/-- The canonical block of a number, asked for once in a sweep. -/
def canonicalBlock (canonicalBlocks : List ChainBlockRef) (number : ℕ) : Option ChainBlockRef :=
  (canonicalBlocks.find? (fun b => decide (b.number = number))).or
    ((chain.blockByNumber number).map ChainBlock.blockRef)

/-- One turn of the loop of `canonical_confirmable_payment_ids`. -/
def checkCandidate (tick : Tick) (head : ChainBlockRef)
    (candidates : List PaymentConfirmationCandidate) (c : PaymentConfirmationCandidate)
    (rest : List PaymentConfirmationCandidate) (canonicalBlocks : List ChainBlockRef)
    (paymentIds : List Uuid) : ScannerPc :=
  match canonicalBlock chain canonicalBlocks c.block.number with
  | none => .failed (.chain (.blockNotFound c.block.number))
  | some block =>
    if block.hash ≠ c.block.hash then .mismatched c.block.number
    else .checking tick head candidates rest (block :: canonicalBlocks)
      (if c.block.hasConfirmations head cfg.minConfirmations then paymentIds ++ [c.paymentId]
        else paymentIds)

/-- The sweep confirms what it checked. -/
def confirmChecked (tick : Tick) (head : ChainBlockRef) (paymentIds : List Uuid) :
    PaymentDb × ScannerPc :=
  match confirmObservedPayments db input.now ⟨cfg.stream, paymentIds, head⟩ with
  | .error e => (db, .failed (.repository e))
  | .ok ([], db') => (db', .scanning tick)
  | .ok (r :: rs, db') => (db', .done (.confirmationsSwept cfg.stream head (rs.length + 1)
      (recomputeOrderIds (r :: rs)) (r :: rs)))

/-- The epoch a healing uses: the next one of the cursor, or the first. -/
def nextEpoch : ℕ :=
  match scanCursorState db cfg.stream with
  | .ok (some state) => state.seenKvReorgEpoch + 1
  | _ => 1

/-- `handle_reorg`. -/
def healReorg (blockNumber epoch : ℕ) : PaymentDb × ScannerPc :=
  match handleKvReorgEpoch db input.now cfg.stream epoch blockNumber with
  | .error e => (db, .failed (.repository e))
  | .ok db' => (db', .done (.kvReorgHandled cfg.stream epoch blockNumber))

/-- The scan of a tick starts with the logs of its range. -/
def beginScan (tick : Tick) : ScannerPc :=
  if tick.targetBlock ≤ tick.lease.lastScannedBlock then
    .done (.idle cfg.stream tick.lease.lastScannedBlock tick.targetBlock)
  else if cfg.maxUniqueToAddressesPerBatch = 0 then
    .failed (.paymentMatching (.invalidConfig "max_unique_to_addresses_per_batch"))
  else
    let scan : Scan := ⟨tick.lease, cfg.toBlock (tick.lease.lastScannedBlock + 1) tick.targetBlock,
      chain⟩
    .fetching scan
      (sortedSet ((scan.logs cfg.stream).map ParsedTransferLog.blockNumber)) []

/-- The header of one block, or the end of the fetching. -/
def fetchHeader (scan : Scan) (pending : List ℕ) (headers : List ChainBlock) : Option ScannerPc :=
  if pending.isEmpty then
    match attachHeaders cfg.stream.chainId headers (scan.logs cfg.stream) with
    | .error e => some (.failed (.paymentMatching (.chain e)))
    | .ok logs => some (.fetched scan logs)
  else if input.block ∈ pending then
    match chain.blockByNumber input.block with
    | none => some (.failed (.paymentMatching (.chain (.blockNotFound input.block))))
    | some b => some (.fetching scan (pending.erase input.block) (headers ++ [b]))
  else none

/-- `lookup_batch` over the repository. -/
def lookupBatch (addresses : List EvmAddress) :
    Except PaymentMatchingError (List PaymentWindowCandidate) := do
  ensure (decide (cfg.maxFallbackAddresses ≠ 0))
    (.paymentWindowLookup "max_addresses" "must be greater than zero")
  ensure (decide (addresses.length ≤ cfg.maxFallbackAddresses))
    (.paymentWindowLookup "to_addresses" ("received " ++ toString addresses.length
      ++ " addresses, max " ++ toString cfg.maxFallbackAddresses))
  (lookupPaymentWindowCandidates db cfg.stream addresses).mapError PaymentMatchingError.repository

/-- The rest of `match_range`: the orders are looked up and the logs matched. -/
def matchLogs (scan : Scan) (logs : List TransferLog) (head : ChainBlockRef) : ScannerPc :=
  let addresses := sortedSet (logs.map (fun log => log.toAddress))
  if cfg.maxUniqueToAddressesPerBatch < addresses.length then
    .failed (.paymentMatching (.uniqueAddressLimitExceeded addresses.length
      cfg.maxUniqueToAddressesPerBatch))
  else match if addresses.isEmpty then .ok [] else lookupBatch cfg db addresses with
    | .error e => .failed (.paymentMatching e)
    | .ok candidates => .committing scan head
        (matchTransferLogs cfg.stream cfg.minConfirmations logs candidates head input.newId)

/-- The batch a scan commits. -/
def Scan.batch (scan : Scan) (matched : List MatchedPaymentInput) : CommitScannedBatch where
  stream := cfg.stream
  workerId := cfg.workerId
  expectedLastScannedBlock := scan.lease.lastScannedBlock
  completeToBlock := scan.toBlock
  expectedSeenKvReorgEpoch := scan.lease.seenKvReorgEpoch
  matchedPayments := matched

/-- The batch is committed. -/
def commitScan (scan : Scan) (matched : List MatchedPaymentInput) : PaymentDb × ScannerPc :=
  match commitScannedBatch db input.now (scan.batch cfg matched) with
  | .error e => (db, .failed (.repository e))
  | .ok (records, db') => (db', .done (.committed cfg.stream scan.toBlock matched.length
      (recomputeOrderIds matched) records))

/-- **One step of a scanner**: the next transaction, read or call of `tick`, or
of the healing in `run_forever`. -/
def scannerStep : ScannerPc → Option (PaymentDb × ScannerPc)
  | .waiting _ => some (beginTick cfg db input)
  | .claimed lease => some (db, .targeted ⟨lease, chain.latestHead.number⟩)
  | .targeted tick => some (db, beginSweep cfg chain tick)
  | .sweeping tick head maxBlockNumber => some (db, readCandidates cfg db tick head maxBlockNumber)
  | .checking tick head candidates [] _ paymentIds =>
    some (db, if paymentIds.isEmpty then .scanning tick
      else .confirming tick head candidates paymentIds)
  | .checking tick head candidates (c :: rest) canonicalBlocks paymentIds =>
    some (db, checkCandidate cfg chain tick head candidates c rest canonicalBlocks paymentIds)
  | .confirming tick head _ paymentIds => some (confirmChecked cfg db input tick head paymentIds)
  | .mismatched blockNumber => some (db, .healing blockNumber (nextEpoch cfg db))
  | .healing blockNumber epoch => some (healReorg cfg db input blockNumber epoch)
  | .scanning tick => some (db, beginScan cfg chain tick)
  | .fetching scan pending headers =>
    (fetchHeader cfg chain input scan pending headers).map (fun pc => (db, pc))
  | .fetched scan logs => some (db, .matching scan logs chain.latestHead)
  | .matching scan logs head => some (db, matchLogs cfg db input scan logs head)
  | .committing scan _ matched => some (commitScan cfg db input scan matched)

end scanner

/-! ## Manual verification -/

/-- `ManualVerifyConfig`. -/
structure ManualVerifyConfig where
  maxLogsPerOrder : ℕ
  minConfirmations : ℕ
  deriving DecidableEq

/-- A verification under way: the order, the head it read, and the chain its
logs were read from. -/
structure Verification where
  orderId : Uuid
  candidate : PaymentWindowCandidate
  head : ChainBlockRef
  source : CanonicalChain

/-- The stream of the order. -/
def PaymentWindowCandidate.stream (c : PaymentWindowCandidate) : StreamId :=
  ⟨c.chainId, c.tokenAddress⟩

/-- The logs it read: those to the order's address, from its window to the head. -/
def Verification.logs (v : Verification) : List ParsedTransferLog :=
  v.source.getLogs ⟨v.candidate.chainId, v.candidate.tokenAddress,
    v.candidate.windowFromBlock.number, v.head.number, some v.candidate.receiveAddress⟩

/-- **Where a verification stands.** A failed one is idle again. -/
inductive VerifyPc
  | idle
  | viewed (orderId : Uuid) (candidate : PaymentWindowCandidate)
  | headed (orderId : Uuid) (candidate : PaymentWindowCandidate) (head : ChainBlockRef)
  | fetching (v : Verification) (pending : List ℕ) (headers : List ChainBlock)
  | checking (v : Verification) (matched todo : List MatchedPaymentInput)

/-- `get_order_view` and `get_order_view_for_owner`, and
`candidate_from_order_view`. -/
def orderCandidate (db : PaymentDb) (orderId : Uuid) (ownerSub : Option String) :
    Except RepositoryError (Option PaymentWindowCandidate) :=
  match db.orders.find? (fun o => decide (o.id = orderId) &&
      ownerSub.all (fun sub => decide (o.ownerSub = sub))) with
  | none => .ok none
  | some o =>
    match db.windows.find? (fun w => decide (w.orderId = o.id)) with
    | none => .ok none
    | some w => (paymentWindowCandidate o { w with receiveAddress := o.receiveAddress }).map some

/-- One step of a verification: which order it is for, and as whom it is asked
for, is settled at its start. -/
inductive VerifyAction
  | start (orderId : Uuid) (ownerSub : Option String)
  | proceed (input : StepInput)

/-- The logs are complete: they are counted, matched, and about to be checked
against the canonical chain. -/
def matchVerified (cfg : ManualVerifyConfig) (input : StepInput) (v : Verification)
    (headers : List ChainBlock) : VerifyPc :=
  match attachHeaders v.candidate.chainId headers v.logs with
  | .error _ => .idle
  | .ok logs =>
    if cfg.maxLogsPerOrder < logs.length then .idle
    else
      let matched := matchTransferLogs v.candidate.stream cfg.minConfirmations logs [v.candidate]
        v.head input.newId
      .checking v matched matched

/-- **One step of `verify_order_internal`.** -/
def verifyStep (cfg : ManualVerifyConfig) (db : PaymentDb) (chain : CanonicalChain) :
    VerifyPc → VerifyAction → Option (PaymentDb × VerifyPc)
  | .idle, .start orderId ownerSub =>
    if cfg.maxLogsPerOrder = 0 then some (db, .idle)
    else match orderCandidate db orderId ownerSub with
      | .ok (some candidate) => some (db, .viewed orderId candidate)
      | _ => some (db, .idle)
  | .viewed orderId candidate, .proceed _ =>
    if chain.latestHead.number < candidate.windowFromBlock.number then some (db, .idle)
    else some (db, .headed orderId candidate chain.latestHead)
  | .headed orderId candidate head, .proceed _ =>
    let v : Verification := ⟨orderId, candidate, head, chain⟩
    some (db, .fetching v (sortedSet (v.logs.map ParsedTransferLog.blockNumber)) [])
  | .fetching v pending headers, .proceed input =>
    if pending.isEmpty then some (db, matchVerified cfg input v headers)
    else if input.block ∈ pending then
      match chain.blockByNumber input.block with
      | none => some (db, .idle)
      | some b => some (db, .fetching v (pending.erase input.block) (headers ++ [b]))
    else none
  | .checking v matched (p :: rest), .proceed _ =>
    match chain.blockByNumber p.blockNumber with
    | none => some (db, .idle)
    | some b => if b.hash ≠ p.blockHash then some (db, .idle)
      else some (db, .checking v matched rest)
  | .checking v matched [], .proceed input =>
    match recordVerifiedPayments db input.now v.orderId matched with
    | .error _ => some (db, .idle)
    | .ok (_, db') => some (db', .idle)
  | _, _ => none

/-! ## The system -/

/-- Who is at work: a scanner or a verification. -/
inductive Worker
  | scanner (w : ℕ)
  | verifier (v : ℕ)
  deriving DecidableEq

/-- What a deployment fixes: the configurations, and which block each hash is
the hash of. -/
structure Deployment where
  scanner : ℕ → PaymentScannerConfig
  verify : ManualVerifyConfig
  ledger : BlockHash → ChainBlock

/-- **The chain is made of the blocks of the ledger**: no two blocks share a hash. -/
def Deployment.Knows (sys : Deployment) (chain : CanonicalChain) : Prop :=
  ∀ b ∈ chain.blocks, sys.ledger b.hash = b

instance (sys : Deployment) (chain : CanonicalChain) : Decidable (sys.Knows chain) :=
  inferInstanceAs (Decidable (∀ b ∈ chain.blocks, _ = _))

/-- **The state of the system.** -/
structure ScannerState where
  db : PaymentDb
  chain : CanonicalChain
  pc : ℕ → ScannerPc
  verifier : ℕ → VerifyPc
  /-- The chains since each worker began what it is doing. -/
  watched : Worker → List CanonicalChain

/-- One step of the system. -/
inductive ScannerAction
  /-- The chain grows or is reorganised. -/
  | newChain (chain : CanonicalChain)
  | scanner (w : ℕ) (input : StepInput)
  /-- A scanner crashes and is restarted, or a call it makes fails. -/
  | abort (w : ℕ)
  | verifier (v : ℕ) (a : VerifyAction)
  | abortVerifier (v : ℕ)
  /-- `handle_kv_reorg_epoch`, called from outside the loop. -/
  | rewind (stream : StreamId) (epoch lastReorgFrom : ℕ) (now : Timestamp)

/-- A tick begins when its worker is waiting. -/
def ScannerPc.isWaiting : ScannerPc → Bool
  | .waiting _ => true
  | _ => false

/-- A verification begins when its worker is idle. -/
def VerifyPc.isIdle : VerifyPc → Bool
  | .idle => true
  | _ => false

/-- The scan a step has committed. -/
def committedScan : ScannerPc → ScannerPc → Option Scan
  | .committing scan _ _, .waiting (some (.ok (.committed _ _ _ _ _))) => some scan
  | _, _ => none

namespace ScannerState

/-- The chains watched by a worker that begins something new, or goes on. -/
def watchedAfter (s : ScannerState) (who : Worker) (begins : Bool) : Worker → List CanonicalChain :=
  if begins then Function.update s.watched who [s.chain] else s.watched

/-- **One step of the system.** -/
def step (sys : Deployment) (s : ScannerState) : ScannerAction → Option ScannerState
  | .newChain chain =>
    if sys.Knows chain then
      some { s with chain := chain, watched := fun who => chain :: s.watched who }
    else none
  | .scanner w input =>
    (scannerStep (sys.scanner w) s.db s.chain input (s.pc w)).map (fun r =>
      { s with
        db := r.1
        pc := Function.update s.pc w r.2
        watched := s.watchedAfter (.scanner w) (s.pc w).isWaiting })
  | .abort w => some { s with pc := Function.update s.pc w (.waiting none) }
  | .verifier v a =>
    (verifyStep sys.verify s.db s.chain (s.verifier v) a).map (fun r =>
      { s with
        db := r.1
        verifier := Function.update s.verifier v r.2
        watched := s.watchedAfter (.verifier v) (s.verifier v).isIdle })
  | .abortVerifier v => some { s with verifier := Function.update s.verifier v .idle }
  | .rewind stream epoch lastReorgFrom now =>
    match handleKvReorgEpoch s.db now stream epoch lastReorgFrom with
    | .error _ => some s
    | .ok db' => some { s with db := db' }

end ScannerState

/-!
## A small deployment

One order of 100 on one token, watched by scanners that share a name, with two
confirmations required. The payment of the order is in block 1 of one chain
and in block 2 of another.
-/

namespace SmallScanner

/-- The transfer that pays the order. -/
def transfer : Transfer := ⟨0x70, 0x77, 0, 0x88, 0xc1, 100⟩

/-- The genesis block. -/
def genesis : ChainBlock := ⟨0, 0x90, 0, [], []⟩

/-- Block 1 with the payment. -/
def paid1 : ChainBlock := ⟨1, 0xa1, 1, [(0x77, .success)], [transfer]⟩

/-- A block 2 on top of it. -/
def paid2 : ChainBlock := ⟨2, 0xa2, 2, [], []⟩

/-- Block 1 without the payment. -/
def empty1 : ChainBlock := ⟨1, 0xb1, 1, [], []⟩

/-- A block 2 with the payment, on top of it. -/
def late2 : ChainBlock := ⟨2, 0xb2, 2, [(0x77, .success)], [transfer]⟩

/-- The payment in block 1, at the head. -/
def paidChain : CanonicalChain where
  blocks := [genesis, paid1]
  nonempty := by simp
  numbered := by decide
  mined_once := by decide
  logged_once := by decide

/-- The payment in block 1, under another block. -/
def deepChain : CanonicalChain where
  blocks := [genesis, paid1, paid2]
  nonempty := by simp
  numbered := by decide
  mined_once := by decide
  logged_once := by decide

/-- Block 1 without the payment, at the head. -/
def emptyChain : CanonicalChain where
  blocks := [genesis, empty1]
  nonempty := by simp
  numbered := by decide
  mined_once := by decide
  logged_once := by decide

/-- The payment in block 2. -/
def lateChain : CanonicalChain where
  blocks := [genesis, empty1, late2]
  nonempty := by simp
  numbered := by decide
  mined_once := by decide
  logged_once := by decide

/-- The stream of the token. -/
def stream : StreamId := ⟨1, 0x70⟩

/-- The configuration every scanner runs with. -/
def config : PaymentScannerConfig where
  workerId := "scanner"
  stream := stream
  leaseDuration := seconds 30
  batchSizeBlocks := 100
  maxBatchSizeBlocks := 500
  confirmationSweepLimit := 1000
  matcherStream := stream
  minConfirmations := 2
  maxUniqueToAddressesPerBatch := 1000
  maxFallbackAddresses := 1000

/-- The deployment, which knows the five blocks. -/
def sys : Deployment where
  scanner := fun _ => config
  verify := ⟨1000, 2⟩
  ledger := fun hash =>
    ([genesis, paid1, paid2, empty1, late2].find? (fun b => decide (b.hash = hash))).getD genesis

/-- The order. -/
def order : OrderRecord where
  id := 0xd1
  ownerSub := "merchant"
  childAccountId := 0xe1
  receiveAddress := 0xc1
  chainId := 1
  tokenAddress := 0x70
  expectedAmountRaw := 100
  paidAmountRaw := 0
  status := .pending
  expiresAt := 10
  monitorUntil := 20

/-- Nothing has happened yet. -/
def initial (chain : CanonicalChain) : ScannerState where
  db := ⟨[order], [⟨0xd1, 0xc1, ⟨0, 0x90⟩, 10, 20⟩], [], [], [⟨1, 0x70, 0, 0, none, none⟩]⟩
  chain := chain
  pc := fun _ => .waiting none
  verifier := fun _ => .idle
  watched := fun _ => []

/-- The inputs of a step that is answered with the header of a block. -/
def input (block : ℕ) : StepInput := ⟨0, 0, fun i => BitVec.ofNat 128 (0xf0 + i), block⟩

/-- A number of steps of a scanner. -/
def steps (w n : ℕ) : List ScannerAction := List.replicate n (.scanner w (input 1))

end SmallScanner
