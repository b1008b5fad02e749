import Pay3.Chain
import Pay3.CollectionService
import Pay3.OutboundRepository
import Pay3.Runs
import Mathlib.Logic.Function.Basic

/-!
# The collector as a system of workers

Any number of collector workers over one database. Every transaction of the
repositories is one step, and so is every call to the node or the signer; a
worker may stop between any two of them for as long as the schedule likes, or
for good (`abort`, which also stands for a call that fails). Time and the
canonical chain move on their own.

A worker's program counter holds what the source keeps in local variables at
that point. The answers of the node's mempool, of the signer and of the
receipt lookup are arbitrary; the head and the canonical block of a number are
read off the chain as it is when the call is made.

The state also keeps a history that no step reads: which transactions were
stored for which collection, which nonces were reserved, what was handed to
the node, which collections were finalised on what grounds, and which chains
were canonical since each worker began the receipt check it is in.
-/

/-- The configuration of one worker. -/
structure CollectorConfig where
  workerId : String
  chainId : ℕ
  tokenAddress : EvmAddress
  claimLeaseSeconds : ℕ
  minConfirmations : ℕ
  replacementStuckAfter : ℕ
  fees : CollectionFees
  strategy : CollectionStrategyConfig
  deriving DecidableEq

/-- **Where a worker stands**, with the local variables it holds there. -/
inductive CollectorPc
  | idle
  /-- No signed transaction to broadcast. -/
  | noSigned
  /-- No receipt to check either. -/
  | noBroadcast
  | broadcasting (collectionId : Uuid) (tx : OutboundTxRecord)
  | broadcasted (collectionId : Uuid) (tx : OutboundTxRecord)
  | checking (collectionId : Uuid) (tx : OutboundTxRecord)
  | succeeded (collectionId : Uuid) (tx : OutboundTxRecord) (block : ChainBlockRef)
  | deepEnough (collectionId : Uuid) (tx : OutboundTxRecord) (block : ChainBlockRef)
  | confirmable (collectionId : Uuid) (tx : OutboundTxRecord) (block : ChainBlockRef)
  | reverted (collectionId : Uuid) (tx : OutboundTxRecord) (block : ChainBlockRef)
  /-- The receipt is missing beyond the replacement threshold. -/
  | receiptMissing (collectionId : Uuid) (tx : OutboundTxRecord)
  | replacing (collectionId : Uuid) (tx : OutboundTxRecord) (job : CollectionJob)
  | planned (collectionId : Uuid) (tx : OutboundTxRecord) (job : CollectionJob)
      (plan : CollectionTxPlan)
  | replacementSigned (collectionId : Uuid) (tx : OutboundTxRecord)
      (replacement : NewSignedOutboundTx)
  | preparing (job : CollectionJob)
  | quoted (job : CollectionJob) (payer : EvmAddress) (amount : RawAmount) (fees : CollectionFees)
  | reserved (job : CollectionJob) (payer : EvmAddress) (amount : RawAmount)
      (fees : CollectionFees) (nonce : RawAmount)
  | signed (job : CollectionJob) (amount : RawAmount) (tx : NewSignedOutboundTx)
  deriving DecidableEq

/-- The collection and transaction a receipt check or a replacement is about. -/
def CollectorPc.claimed? : CollectorPc → Option (Uuid × OutboundTxRecord)
  | .checking c tx | .succeeded c tx _ | .deepEnough c tx _ | .confirmable c tx _
  | .reverted c tx _ | .receiptMissing c tx | .replacing c tx _ | .planned c tx _ _
  | .replacementSigned c tx _ => some (c, tx)
  | _ => none

/-- The account and nonce a worker holds between its reservation and its
insert. -/
def CollectorPc.holding? : CollectorPc → Option ReservedNonce
  | .reserved job payer _ _ nonce => some ⟨job.collection.chainId, payer, nonce⟩
  | .signed _ _ tx => some ⟨tx.chainId, tx.fromAddress, tx.nonce⟩
  | _ => none

/-- The grounds a collection was finalised on: the block of the receipt and the
chains that were canonical at some moment of the check. -/
structure Finalisation where
  txId : Uuid
  block : ChainBlockRef
  minConfirmations : ℕ
  watched : List CanonicalChain

/-- **What has happened so far.** -/
structure CollectorHistory where
  /-- Every transaction stored, with the collection it was signed for. -/
  stored : List (Uuid × OutboundTxRecord)
  /-- Every nonce reserved, with its chain and account, the first one first. -/
  reservations : List ((ℕ × EvmAddress) × ℕ)
  /-- Every transaction handed to the node. -/
  sent : List OutboundTxRecord
  finalised : List Finalisation

/-- **The state of the system.** -/
structure CollectorState where
  db : CollectorDb
  now : Timestamp
  chain : CanonicalChain
  pc : ℕ → CollectorPc
  /-- The chains since each worker's receipt check began. -/
  watched : ℕ → List CanonicalChain
  history : CollectorHistory

/-- One step of a worker, with the answer of whatever it calls. -/
inductive WorkerAction
  | claimSigned
  | claimForReceipt
  | claimJob
  | broadcast (answer : TxHash)
  | markBroadcast
  | readReceipt (answer : Option TxReceipt)
  | readHead
  | readBlock
  | markConfirmed
  | markFailed
  | fetchJob
  | planReplacement (estimate : Eip1559FeeEstimate)
  | signReplacement (signed : SignedTx) (id : Uuid)
  | storeReplacement
  | quote (balance : RawAmount) (estimate : Eip1559FeeEstimate)
  | reserve (pendingNonce : RawAmount)
  | sign (signed : SignedTx) (id : Uuid)
  | store
  | abort
  deriving DecidableEq

/-- One step of the system. -/
inductive CollectorAction
  | createCollection (command : CreateCollectionCommand)
  /-- The rest of the program changes the orders. -/
  | setOrders (orders : List CollectableOrder)
  | advanceClock (elapsed : ℕ)
  /-- The chain grows or is reorganised. -/
  | newChain (chain : CanonicalChain)
  | worker (w : ℕ) (a : WorkerAction)

/-- What a worker's step leaves behind. -/
structure WorkerResult where
  db : CollectorDb
  history : CollectorHistory
  pc : CollectorPc

/-- `outbound_replacement_due`. -/
def outboundReplacementDue (cfg : CollectorConfig) (now : Timestamp) (tx : OutboundTxRecord) :
    Bool :=
  match tx.lastBroadcastAt with
  | none => false
  | some lastBroadcastAt => decide (lastBroadcastAt ≤ now - seconds cfg.replacementStuckAfter)

/-- The reason a stuck transaction is replaced for. -/
def stuckReason : String := "receipt missing beyond replacement threshold"

/-- The error a reverted transaction is failed with. -/
def revertedError : String := "collect transaction reverted"

namespace CollectorState

/-- A step that leaves the database and the history alone. -/
def stay (s : CollectorState) (pc : CollectorPc) : Option WorkerResult :=
  some ⟨s.db, s.history, pc⟩

/-- A fallible step that leaves the database alone: an error sends the worker
back to idle. -/
def proceed {ε β : Type} (s : CollectorState) (r : Except ε β) (next : β → CollectorPc) :
    Option WorkerResult :=
  match r with
  | .error _ => s.stay .idle
  | .ok b => s.stay (next b)

/-- A transaction: an error leaves the database as it was and sends the worker
back to idle. -/
def commit {ε β : Type} (s : CollectorState) (r : Except ε (CollectorDb × β))
    (record : β → CollectorHistory) (next : β → CollectorPc) : Option WorkerResult :=
  match r with
  | .error _ => s.stay .idle
  | .ok (db, b) => some ⟨db, record b, next b⟩

/-- A transaction was stored for a collection. -/
def recordStored (s : CollectorState) (collectionId : Uuid) (row : OutboundTxRecord) :
    CollectorHistory :=
  { s.history with stored := s.history.stored ++ [(collectionId, row)] }

/-- A nonce was reserved. -/
def recordReservation (s : CollectorState) (chainId : ℕ) (payer : EvmAddress)
    (pendingNonce : RawAmount) : CollectorHistory :=
  { s.history with
    reservations := s.history.reservations
      ++ [((chainId, payer), s.db.reservableNonce chainId payer pendingNonce)] }

/-- A collection was finalised by worker `w`. -/
def recordFinalised (s : CollectorState) (cfg : CollectorConfig) (w : ℕ) (txId : Uuid)
    (block : ChainBlockRef) : CollectorHistory :=
  { s.history with
    finalised := s.history.finalised ++ [⟨txId, block, cfg.minConfirmations, s.watched w⟩] }

/-- The record of `prepare_next_collection_job` for `insert_signed_collect_tx`. -/
def collectTx (job : CollectionJob) (payer : EvmAddress) (fees : CollectionFees)
    (nonce : RawAmount) (signed : SignedTx) (id : Uuid) : NewSignedOutboundTx where
  id := id
  chainId := job.collection.chainId
  purpose := .collect
  fromAddress := payer
  toAddress := job.collection.toAddress
  nonce := nonce
  gasLimit := fees.gasLimit
  maxFeePerGas := fees.maxFeePerGas
  maxPriorityFeePerGas := fees.maxPriorityFeePerGas
  txHash := signed.txHash
  signedTx := signed.rawTx
  replacementOf := none
  replacementReason := none

/-- The record of `replace_collection_job` for `replace_signed_tx`. -/
def replacementTx (claimed : OutboundTxRecord) (plan : CollectionTxPlan) (signed : SignedTx)
    (id : Uuid) : NewSignedOutboundTx where
  id := id
  chainId := plan.chainId
  purpose := .collect
  fromAddress := plan.fromAddress
  toAddress := plan.toAddress
  nonce := claimed.nonce
  gasLimit := plan.fees.gasLimit
  maxFeePerGas := plan.fees.maxFeePerGas
  maxPriorityFeePerGas := plan.fees.maxPriorityFeePerGas
  txHash := signed.txHash
  signedTx := signed.rawTx
  replacementOf := some claimed.id
  replacementReason := some stuckReason

/-- Where a receipt leads. -/
def afterReceipt (cfg : CollectorConfig) (now : Timestamp) (c : Uuid) (tx : OutboundTxRecord) :
    Option TxReceipt → CollectorPc
  | none => if outboundReplacementDue cfg now tx then .receiptMissing c tx else .idle
  | some receipt =>
    if receipt.txHash ≠ tx.txHash then .idle
    else match receipt.status with
      | .success => .succeeded c tx receipt.block
      | .reverted => .reverted c tx receipt.block

/-- Where the canonical block of the receipt's number leads. -/
def afterBlock (c : Uuid) (tx : OutboundTxRecord) (block : ChainBlockRef) :
    Option ChainBlock → CollectorPc
  | none => .idle
  | some canonical => if canonical.hash = block.hash then .confirmable c tx block else .idle

/-- The job `replace_collection_job` goes on with. -/
def eligibleJob (s : CollectorState) (c : Uuid) (tx : OutboundTxRecord) :
    Except CollectionServiceError CollectionJob := do
  let job ← (s.db.getCollectionJob c).mapError CollectionServiceError.repository
  let job ← orError job (.collectionNotFound c)
  ensureReplacementEligible job.collection tx
  return job

/-- The nonce as the signer takes it, with the checks of the signed result. -/
def checkedCollectTx (job : CollectionJob) (payer : EvmAddress) (fees : CollectionFees)
    (nonce : RawAmount) (signed : SignedTx) (id : Uuid) :
    Except CollectionServiceError NewSignedOutboundTx := do
  let n ← rawAmountToU64 nonce
  ensureSignedTxMatchesJob job.collection signed payer n
  return collectTx job payer fees nonce signed id

/-- The replacement, with the checks of the signed result. -/
def checkedReplacementTx (tx : OutboundTxRecord) (job : CollectionJob) (plan : CollectionTxPlan)
    (signed : SignedTx) (id : Uuid) : Except CollectionServiceError NewSignedOutboundTx := do
  ensureSignedTxMatchesJob job.collection signed plan.fromAddress plan.nonce
  return replacementTx tx plan signed id

/-- **One step of worker `w`** from the program counter it is at. Steps that do
not belong to it are refused. -/
def workerStep (cfg : CollectorConfig) (s : CollectorState) (w : ℕ) :
    CollectorPc → WorkerAction → Option WorkerResult
  -- `tick`
  | .idle, .claimSigned =>
    s.commit (s.db.claimSignedCollectTxForBroadcast s.now cfg.claimLeaseSeconds cfg.workerId
        cfg.chainId cfg.tokenAddress) (fun _ => s.history)
      (fun | none => .noSigned | some (c, tx) => .broadcasting c tx)
  | .noSigned, .claimForReceipt =>
    s.commit (s.db.claimBroadcastCollectTxForReceipt s.now cfg.claimLeaseSeconds cfg.workerId
        cfg.chainId cfg.tokenAddress) (fun _ => s.history)
      (fun | none => .noBroadcast | some (c, tx) => .checking c tx)
  | .noBroadcast, .claimJob =>
    s.commit (s.db.claimCollectionJob s.now cfg.claimLeaseSeconds cfg.workerId cfg.chainId
        cfg.tokenAddress) (fun _ => s.history)
      (fun | none => .idle | some job => .preparing job)
  -- `broadcast_outbound`
  | .broadcasting c tx, .broadcast answer =>
    some ⟨s.db, { s.history with sent := s.history.sent ++ [tx] },
      if answer = tx.txHash then .broadcasted c tx else .idle⟩
  | .broadcasted _ tx, .markBroadcast =>
    s.commit (s.db.markBroadcast s.now tx.id) (fun _ => s.history) (fun _ => .idle)
  -- `check_outbound_receipt`
  | .checking c tx, .readReceipt answer => s.stay (afterReceipt cfg s.now c tx answer)
  | .succeeded c tx block, .readHead =>
    s.stay (if block.hasConfirmations s.chain.latestHead cfg.minConfirmations
      then .deepEnough c tx block else .idle)
  | .deepEnough c tx block, .readBlock =>
    s.stay (afterBlock c tx block (s.chain.blockByNumber block.number))
  | .confirmable _ tx block, .markConfirmed =>
    s.commit (s.db.markConfirmed s.now tx.id block)
      (fun _ => s.recordFinalised cfg w tx.id block) (fun _ => .idle)
  | .reverted _ tx block, .markFailed =>
    s.commit (s.db.markFailed s.now tx.id revertedError)
      (fun _ => s.recordFinalised cfg w tx.id block) (fun _ => .idle)
  -- `replace_collection_job`
  | .receiptMissing c tx, .fetchJob => s.proceed (s.eligibleJob c tx) (.replacing c tx)
  | .replacing c tx job, .planReplacement estimate =>
    s.proceed (replacementPlan cfg.strategy cfg.fees job.collection tx estimate)
      (.planned c tx job)
  | .planned c tx job plan, .signReplacement signed id =>
    s.proceed (checkedReplacementTx tx job plan signed id) (.replacementSigned c tx)
  | .replacementSigned c tx replacement, .storeReplacement =>
    s.commit (s.db.replaceSignedTx s.now tx.id replacement) (s.recordStored c)
      (.broadcasting c)
  -- `prepare_next_collection_job`
  | .preparing job, .quote balance estimate =>
    s.proceed (resolveCollectionAmount job.collection balance)
      (fun amount => .quoted job (payerAddress cfg.strategy job.collection) amount
        (collectionFeesFromEstimate cfg.fees estimate))
  | .quoted job payer amount fees, .reserve pendingNonce =>
    s.commit (s.db.reserveNonce job.collection.chainId payer pendingNonce)
      (fun _ => s.recordReservation job.collection.chainId payer pendingNonce)
      (fun | .error _ => .idle | .ok r => .reserved job payer amount fees r.nonce)
  | .reserved job payer amount fees nonce, .sign signed id =>
    s.proceed (checkedCollectTx job payer fees nonce signed id) (.signed job amount)
  | .signed job amount tx, .store =>
    s.commit (s.db.insertSignedCollectTx s.now job.collection.id tx amount)
      (s.recordStored job.collection.id) (.broadcasting job.collection.id)
  -- a call that fails, or a crash
  | _, .abort => s.stay .idle
  | _, _ => none

/-- The state after a worker's step. -/
def moved (s : CollectorState) (w : ℕ) (a : WorkerAction) (r : WorkerResult) : CollectorState :=
  { s with
    db := r.db
    history := r.history
    pc := Function.update s.pc w r.pc
    watched := if a = .claimForReceipt then Function.update s.watched w [s.chain] else s.watched }

/-- **One step of the system.** -/
def step (cfg : ℕ → CollectorConfig) (s : CollectorState) : CollectorAction → Option CollectorState
  | .createCollection command =>
    match s.db.createCollectionIdempotent s.now command with
    | .error _ => some s
    | .ok (db, _) => some { s with db := db }
  | .setOrders orders => some { s with db := { s.db with orders := orders } }
  | .advanceClock elapsed => some { s with now := s.now + elapsed }
  | .newChain chain =>
    some { s with chain := chain, watched := fun w => chain :: s.watched w }
  | .worker w a => (workerStep (cfg w) s w (s.pc w) a).map (s.moved w a)

/-- **Before anything happened**: no collection, no transaction, no counter, and
every worker idle. -/
structure Initial (s : CollectorState) : Prop where
  collections : s.db.collections = []
  outbounds : s.db.outboundTransactions = []
  nonces : s.db.accountNonces = []
  idle : ∀ w, s.pc w = .idle
  history : s.history = ⟨[], [], [], []⟩

end CollectorState

/-! ## A small deployment

One child account with one paid order, collected to a treasury by workers that
sign for the child account itself. The concrete runs of the later modules
start from it. -/

namespace SmallDeployment

/-- A chain of the genesis block alone. -/
def genesis : CanonicalChain where
  blocks := [⟨0, 0x90, 0, [], []⟩]
  nonempty := by simp
  numbered := by decide
  mined_once := by decide
  logged_once := by decide

/-- The child account. -/
def child : ChildAccountRecord where
  id := 0xa1
  signerKeyRef := "master"
  derivationVersion := 1
  derivationSegment := ⟨0, 0, 0, Nat.zero_le _, Nat.zero_le _, Nat.zero_le _⟩
  derivationPath := "m/44'/60'/0'/0/0"
  address := 0xc1

/-- The order paid to it. -/
def order : CollectableOrder := ⟨0xb1, "merchant", 0xa1, 1, 0x70, 0xc1, .paid⟩

/-- The request to collect the order. -/
def command : CreateCollectionCommand where
  collectionId := 0xd1
  ownerSub := "merchant"
  orderId := 0xb1
  idempotencyKey := "collect-1"
  requestHash := "0x01"
  childAccountId := 0xa1
  chainId := 1
  tokenAddress := 0x70
  fromAddress := 0xc1
  toAddress := 0x7e
  amountRaw := none
  orderRequirement := .paid

/-- A second request, for the same order. -/
def command' : CreateCollectionCommand :=
  { command with collectionId := 0xd2, idempotencyKey := "collect-2", requestHash := "0x02" }

/-- The configuration of worker `w`. -/
def config (w : ℕ) : CollectorConfig where
  workerId := "collector-" ++ toString w
  chainId := 1
  tokenAddress := 0x70
  claimLeaseSeconds := 60
  minConfirmations := 2
  replacementStuckAfter := 300
  fees := ⟨65000, 30, 2⟩
  strategy := .standard

/-- Nothing has happened yet. -/
def initial : CollectorState where
  db := ⟨[], [], [], [child], [order], [(1, 0x70, 0x7e)], []⟩
  now := 0
  chain := genesis
  pc := fun _ => .idle
  watched := fun _ => []
  history := ⟨[], [], [], []⟩

theorem initial_initial : initial.Initial :=
  ⟨rfl, rfl, rfl, fun _ => rfl, rfl⟩

/-- Worker `w` finds nothing to broadcast or to check and claims a job. -/
def claimJobBy (w : ℕ) : List CollectorAction :=
  [.worker w .claimSigned, .worker w .claimForReceipt, .worker w .claimJob]

/-- Worker `w` quotes its job and reserves a nonce, the node answering that none
is pending. -/
def reserveBy (w : ℕ) : List CollectorAction :=
  [.worker w (.quote 500 ⟨30, 2⟩), .worker w (.reserve 0)]

/-- Worker `w` signs its job with the given nonce and stores the result. -/
def storeBy (w nonce : ℕ) (txHash : TxHash) (id : Uuid) : List CollectorAction :=
  [.worker w (.sign ⟨1, nonce, 0xc1, 0x70, txHash, [0x02]⟩ id), .worker w .store]

/-- Worker `w` broadcasts what it has just stored. -/
def broadcastBy (w : ℕ) (txHash : TxHash) : List CollectorAction :=
  [.worker w (.broadcast txHash), .worker w .markBroadcast]

/-- The collection is created; worker 0 claims it, stores a transaction and
broadcasts it. -/
def sentRun : List CollectorAction :=
  .createCollection command :: (claimJobBy 0 ++ reserveBy 0 ++ storeBy 0 0 0xf0 0xe0
    ++ broadcastBy 0 0xf0)

/-- Worker 0 reserves a nonce and fails, claims the collection again when its
lease has run out, and stores a transaction with the next nonce. -/
def leakRun : List CollectorAction :=
  .createCollection command :: (claimJobBy 0 ++ reserveBy 0 ++ .worker 0 .abort
    :: .advanceClock 61000000 :: claimJobBy 0 ++ reserveBy 0 ++ storeBy 0 1 0xf1 0xe1)

/-- Worker `w` checks the receipt, finds none and signs a replacement. -/
def signReplacementBy (w nonce : ℕ) (txHash : TxHash) (id : Uuid) : List CollectorAction :=
  [.worker w .claimSigned, .worker w .claimForReceipt, .worker w (.readReceipt none),
    .worker w .fetchJob, .worker w (.planReplacement ⟨30, 2⟩),
    .worker w (.signReplacement ⟨1, nonce, 0xc1, 0x70, txHash, [0x02]⟩ id)]

/-- The chain whose first block mined the transaction worker 0 sent. -/
def mined (status : TransactionStatus) : CanonicalChain where
  blocks := [⟨0, 0x90, 0, [], []⟩, ⟨1, 0x91, 12, [(0xf0, status)], []⟩, ⟨2, 0x92, 24, [], []⟩]
  nonempty := by simp
  numbered := by simp
  mined_once := by simp
  logged_once := by simp

/-- The chain whose head has just mined it, reverted. -/
def minedAtHead : CanonicalChain where
  blocks := [⟨0, 0x90, 0, [], []⟩, ⟨1, 0x91, 12, [(0xf0, .reverted)], []⟩]
  nonempty := by simp
  numbered := by decide
  mined_once := by decide
  logged_once := by decide

/-- Worker `w` checks the receipt on the first chain and confirms. -/
def confirmBy (w : ℕ) : List CollectorAction :=
  [.worker w .claimSigned, .worker w .claimForReceipt,
    .worker w (.readReceipt (some ⟨0xf0, ⟨1, 0x91⟩, .success⟩)), .worker w .readHead,
    .worker w .readBlock, .worker w .markConfirmed]

/-- Worker `w` checks the receipt, which says reverted, and fails. -/
def failBy (w : ℕ) : List CollectorAction :=
  [.worker w .claimSigned, .worker w .claimForReceipt,
    .worker w (.readReceipt (some ⟨0xf0, ⟨1, 0x91⟩, .reverted⟩)), .worker w .markFailed]

end SmallDeployment
