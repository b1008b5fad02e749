import Pay3.Domain
import Pay3.Tables

/-!
# The tables of the collector

The rows of `collections`, `outbound_transactions`, `account_nonces` and of
the tables they refer to, with the constraints the schema puts on them: the
primary keys, the unique indexes, the checks, the foreign keys and the trigger
that ties a collection to its outbound transaction. A statement that would
break one of them fails, and the transaction it stands in is rolled back.

`CollectorDb.updateCollections` is the one way the model changes a row of
`collections`; the index on active collections per child account is checked
there, whichever statement makes the change.
-/

/-- A row of `collections`. -/
structure CollectionRecord where
  id : Uuid
  ownerSub : String
  orderId : Uuid
  idempotencyKey : String
  requestHash : String
  childAccountId : Uuid
  chainId : ℕ
  tokenAddress : EvmAddress
  fromAddress : EvmAddress
  toAddress : EvmAddress
  amountRaw : Option RawAmount
  status : CollectionRecordStatus
  outboundTxId : Option Uuid
  attemptCount : ℕ
  lockedBy : Option String
  lockedUntil : Option Timestamp
  error : Option String
  createdAt : Timestamp
  updatedAt : Timestamp
  deriving DecidableEq

/-- A row of `outbound_transactions`. -/
structure OutboundTxRecord where
  id : Uuid
  chainId : ℕ
  purpose : OutboundTxPurpose
  fromAddress : EvmAddress
  toAddress : EvmAddress
  nonce : RawAmount
  gasLimit : ℕ
  maxFeePerGas : RawAmount
  maxPriorityFeePerGas : RawAmount
  txHash : TxHash
  signedTx : List UInt8
  status : OutboundTxStatus
  replacementOf : Option Uuid
  replacementReason : Option String
  broadcastCount : ℕ
  lastBroadcastAt : Option Timestamp
  receiptBlock : Option ChainBlockRef
  error : Option String
  createdAt : Timestamp
  updatedAt : Timestamp
  deriving DecidableEq

/-- A signed transaction about to be stored. -/
structure NewSignedOutboundTx where
  id : Uuid
  chainId : ℕ
  purpose : OutboundTxPurpose
  fromAddress : EvmAddress
  toAddress : EvmAddress
  nonce : RawAmount
  gasLimit : ℕ
  maxFeePerGas : RawAmount
  maxPriorityFeePerGas : RawAmount
  txHash : TxHash
  signedTx : List UInt8
  replacementOf : Option Uuid
  replacementReason : Option String
  deriving DecidableEq

/-- A row of `account_nonces`. -/
structure AccountNonce where
  chainId : ℕ
  address : EvmAddress
  nextNonce : ℕ
  deriving DecidableEq

/-- A nonce handed out by `reserve_nonce`. -/
structure ReservedNonce where
  chainId : ℕ
  address : EvmAddress
  nonce : RawAmount
  deriving DecidableEq

/-- A row of `child_accounts`, with the columns a collection job reads. -/
structure ChildAccountRecord where
  id : Uuid
  signerKeyRef : String
  derivationVersion : ℕ
  derivationSegment : DerivationSegment
  derivationPath : String
  address : EvmAddress
  deriving DecidableEq

/-- A row of `orders`, with the columns `lock_collectable_order` reads. -/
structure CollectableOrder where
  id : Uuid
  ownerSub : String
  childAccountId : Uuid
  chainId : ℕ
  tokenAddress : EvmAddress
  receiveAddress : EvmAddress
  status : OrderStatus
  deriving DecidableEq

/-- A collection with what it takes to sign for its child account. -/
structure CollectionJob where
  collection : CollectionRecord
  signerKeyRef : String
  derivationVersion : ℕ
  derivationSegment : DerivationSegment
  derivationPath : String
  deriving DecidableEq

/-- **The database as the collector sees it.** -/
structure CollectorDb where
  collections : List CollectionRecord
  outboundTransactions : List OutboundTxRecord
  accountNonces : List AccountNonce
  childAccounts : List ChildAccountRecord
  orders : List CollectableOrder
  /-- `treasury_addresses`: chain, token, address. -/
  treasuryAddresses : List (ℕ × EvmAddress × EvmAddress)
  /-- `relayer_addresses`: chain, address. -/
  relayerAddresses : List (ℕ × EvmAddress)
  deriving DecidableEq

namespace CollectorDb

/-- The collection with a given identifier. -/
def collection? (db : CollectorDb) (id : Uuid) : Option CollectionRecord :=
  db.collections.find? (fun c => decide (c.id = id))

/-- The outbound transaction with a given identifier. -/
def outbound? (db : CollectorDb) (id : Uuid) : Option OutboundTxRecord :=
  db.outboundTransactions.find? (fun o => decide (o.id = id))

/-- A lookup after an update of `collections` that keeps the identifiers. -/
theorem collection?_updateWhere {d d' : CollectorDb} {p : CollectionRecord → Bool}
    {f : CollectionRecord → CollectionRecord}
    (h : d'.collections = updateWhere p f d.collections) (hid : ∀ c, (f c).id = c.id)
    (id : Uuid) :
    d'.collection? id = (d.collection? id).map (fun c => if p c then f c else c) := by
  unfold collection?
  rw [h]
  exact find?_updateWhere hid id d.collections

/-- **The constraints a new row of `outbound_transactions` has to meet.** -/
def checkOutboundRow (db : CollectorDb) (row : OutboundTxRecord) :
    Except RepositoryError Unit := do
  ensure (!row.signedTx.isEmpty)
    (.database (.checkViolation "outbound_transactions_signed_tx_check"))
  ensure (decide (0 < row.gasLimit))
    (.database (.checkViolation "outbound_gas_limit_positive"))
  ensure (decide (row.maxPriorityFeePerGas ≤ row.maxFeePerGas))
    (.database (.checkViolation "outbound_priority_fee_le_max_fee"))
  ensure (db.outboundTransactions.all (fun o => o.id ≠ row.id))
    (.database (.uniqueViolation "outbound_transactions_pkey"))
  ensure (db.outboundTransactions.all
      (fun o => !(decide (o.chainId = row.chainId) && decide (o.txHash = row.txHash))))
    (.database (.uniqueViolation "outbound_transactions_chain_id_tx_hash_key"))
  -- the partial index counts only the rows that still hold their nonce
  ensure (db.outboundTransactions.all
      (fun o => !(o.status.holdsNonce && decide (o.chainId = row.chainId)
        && decide (o.fromAddress = row.fromAddress) && decide (o.nonce = row.nonce))))
    (.database (.uniqueViolation "outbound_active_nonce_idx"))
  ensure (row.replacementOf.all (fun id => (db.outbound? id).isSome))
    (.database (.foreignKeyViolation "outbound_transactions_replacement_of_fkey"))

/-- **`enforce_collection_outbound_tx`**, the trigger on `collections`: the
attached transaction exists, is a collect transaction of the same chain and
destination, and is sent by the collection's own address or by a relayer. -/
def enforceCollectionOutboundTx (db : CollectorDb) (new : CollectionRecord) :
    Except RepositoryError Unit :=
  match new.outboundTxId with
  | none => .ok ()
  | some id =>
    match db.outbound? id with
    | none => .error (.database (.raised
        s!"collection outbound transaction {id.hyphenated} does not exist"))
    | some outbound =>
      ensure (decide (outbound.purpose = .collect) && decide (outbound.chainId = new.chainId)
          && (decide (outbound.fromAddress = new.fromAddress)
            || db.relayerAddresses.contains (new.chainId, outbound.fromAddress))
          && decide (outbound.toAddress = new.toAddress))
        (.database (.raised "collection outbound transaction invariant violation"))

/-- The index `one_active_collection_per_child`: no two active collections of
one child account. -/
def activePerChild (rows : List CollectionRecord) : Bool :=
  decide (rows.Pairwise (fun a b =>
    ¬ (a.status.isIndexedActive = true ∧ b.status.isIndexedActive = true
      ∧ a.childAccountId = b.childAccountId)))

/-- The trigger on the rows an update selects. It fires only when the statement
sets `outbound_tx_id`, which `attaches` says. -/
def fireOutboundTrigger (db : CollectorDb) (attaches : Bool) (p : CollectionRecord → Bool)
    (f : CollectionRecord → CollectionRecord) : Except RepositoryError Unit :=
  if attaches then
    (db.collections.filter p).forM (fun c => db.enforceCollectionOutboundTx (f c))
  else .ok ()

/-- **`UPDATE collections SET f WHERE p`**, with the trigger before it and the
index on active collections checked on the result. -/
def updateCollections (db : CollectorDb) (attaches : Bool) (p : CollectionRecord → Bool)
    (f : CollectionRecord → CollectionRecord) : Except RepositoryError CollectorDb := do
  db.fireOutboundTrigger attaches p f
  let rows := updateWhere p f db.collections
  ensure (activePerChild rows)
    (.database (.uniqueViolation "one_active_collection_per_child"))
  return { db with collections := rows }

/-- An update of `collections` changes that table and nothing else. -/
theorem updateCollections_eq_ok {db db' : CollectorDb} {attaches : Bool}
    {p : CollectionRecord → Bool} {f : CollectionRecord → CollectionRecord}
    (h : db.updateCollections attaches p f = .ok db') :
    db' = { db with collections := updateWhere p f db.collections } := by
  unfold updateCollections at h
  obtain ⟨_, _, h⟩ := Except.bind_eq_ok.mp h
  obtain ⟨_, h⟩ := ensure_bind_eq_ok.mp h
  exact (Except.pure_eq_ok.mp h).symm

/-- An update that goes through leaves no two active collections of one child
account. -/
theorem activePerChild_updateCollections {db db' : CollectorDb} {attaches : Bool}
    {p : CollectionRecord → Bool} {f : CollectionRecord → CollectionRecord}
    (h : db.updateCollections attaches p f = .ok db') : activePerChild db'.collections = true := by
  unfold updateCollections at h
  obtain ⟨_, _, h⟩ := Except.bind_eq_ok.mp h
  obtain ⟨hactive, h⟩ := ensure_bind_eq_ok.mp h
  rw [← Except.pure_eq_ok.mp h]
  exact hactive

/-- An update that changes no child account and makes no collection active
keeps the index. -/
theorem activePerChild_updateWhere {p : CollectionRecord → Bool}
    {f : CollectionRecord → CollectionRecord} {rows : List CollectionRecord}
    (h : activePerChild rows = true) (hchild : ∀ c, (f c).childAccountId = c.childAccountId)
    (hactive : ∀ c, (f c).status.isIndexedActive = true → c.status.isIndexedActive = true) :
    activePerChild (updateWhere p f rows) = true := by
  unfold activePerChild updateWhere at *
  rw [decide_eq_true_eq] at *
  refine List.Pairwise.map _ (fun a b hab => ?_) h
  rintro ⟨ha, hb, hc⟩
  refine hab ⟨?_, ?_, ?_⟩
  · split at ha
    · exact hactive a ha
    · exact ha
  · split at hb
    · exact hactive b hb
    · exact hb
  · split at hc <;> split at hc <;> simpa only [hchild] using hc

end CollectorDb
