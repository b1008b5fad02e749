import Pay3.CollectionTables

/-!
# Creating and claiming collections

The transactions of `PgCollectionRepository`, each as a function from the
database to the error it returns or to the next database and its result. An
error leaves no next database: the transaction is rolled back.

A claim is a lease. `claim_collection_job` takes the oldest queued collection
whose lease has run out, writes its own lease on it and leaves the status at
`queued`: nothing but the clock keeps a second worker from claiming the same
collection later.
-/

/-- A range check fails only with its own error. -/
theorem toI64_failsOnly {P : RepositoryError → Prop} {value : ℕ} {e : RepositoryError} (he : P e) :
    (toI64 value e).FailsOnly P := by
  unfold toI64
  split_ifs
  · exact Except.failsOnly_ok _
  · exact Except.failsOnly_error he

/-- What a caller asks `create_collection_idempotent` for. -/
inductive CollectionOrderRequirement
  | paid | problemFunds
  deriving DecidableEq, Repr

/-- The argument of `create_collection_idempotent`. -/
structure CreateCollectionCommand where
  collectionId : Uuid
  ownerSub : String
  orderId : Uuid
  idempotencyKey : String
  requestHash : String
  childAccountId : Uuid
  chainId : ℕ
  tokenAddress : EvmAddress
  fromAddress : EvmAddress
  toAddress : EvmAddress
  amountRaw : Option RawAmount
  orderRequirement : CollectionOrderRequirement
  deriving DecidableEq

/-- The name of an order status in the database and in error texts. -/
def OrderStatus.dbStr : OrderStatus → String
  | .pending => "pending"
  | .partial_ => "partial"
  | .confirming => "confirming"
  | .paid => "paid"
  | .expired => "expired"

namespace CollectorDb

/-! ## Creating a collection -/

/-- `ensure_same_collection_request`. -/
def ensureSameCollectionRequest (existing : CollectionRecord)
    (command : CreateCollectionCommand) : Except RepositoryError Unit :=
  ensure (decide (existing.requestHash = command.requestHash))
    (.idempotencyConflict "collections.idempotency_key" command.idempotencyKey (some existing.id))

/-- `select_active_collection_by_child_account`: the latest active collection
of the child account. -/
def selectActiveCollectionByChildAccount (db : CollectorDb) (childAccountId : Uuid) :
    Option CollectionRecord :=
  firstBy (fun a b => decide (b.createdAt ≤ a.createdAt))
    (db.collections.filter
      (fun c => decide (c.childAccountId = childAccountId) && c.status.isActive))

/-- Whether the route of the command accepts the order's status. -/
def ensureCollectableStatus (command : CreateCollectionCommand) (status : OrderStatus) :
    Except RepositoryError Unit :=
  let id := command.orderId.hyphenated
  match command.orderRequirement with
  | .paid =>
    ensure (decide (status = .paid)) (.invariantViolation
      s!"order {id} must be paid before collection, got {status.dbStr}")
  | .problemFunds =>
    ensure (decide (status = .expired) || decide (status = .paid)) (.invariantViolation
      s!"order {id} must be expired or paid before problem funds collection, got {status.dbStr}")

/-- `lock_collectable_order`: the order the command names, in a status the
requested route accepts. -/
def lockCollectableOrder (db : CollectorDb) (command : CreateCollectionCommand) :
    Except RepositoryError Unit := do
  let _ ← u64ToI64 command.chainId "collections.chain_id"
  let order ← orError
    (db.orders.find? (fun o => decide (o.id = command.orderId)
      && decide (o.ownerSub = command.ownerSub)
      && decide (o.childAccountId = command.childAccountId)
      && decide (o.chainId = command.chainId)
      && decide (o.tokenAddress = command.tokenAddress)
      && decide (o.receiveAddress = command.fromAddress)))
    (.notFound "orders" command.orderId.hyphenated)
  ensureCollectableStatus command order.status

/-- The row `insert_collection` inserts. -/
def newCollection (now : Timestamp) (command : CreateCollectionCommand) : CollectionRecord where
  id := command.collectionId
  ownerSub := command.ownerSub
  orderId := command.orderId
  idempotencyKey := command.idempotencyKey
  requestHash := command.requestHash
  childAccountId := command.childAccountId
  chainId := command.chainId
  tokenAddress := command.tokenAddress
  fromAddress := command.fromAddress
  toAddress := command.toAddress
  amountRaw := command.amountRaw
  status := .queued
  outboundTxId := none
  attemptCount := 0
  lockedBy := none
  lockedUntil := none
  error := none
  createdAt := now
  updatedAt := now

/-- `insert_collection`, with the constraints of the table. The order it refers
to has just been locked, so the foreign keys left to check are the child
account and the destination. -/
def insertCollection (db : CollectorDb) (now : Timestamp) (command : CreateCollectionCommand) :
    Except RepositoryError (CollectorDb × CollectionRecord) := do
  let row := newCollection now command
  ensure (decide (row.ownerSub ≠ "")) (.database (.checkViolation "collections_owner_sub_not_empty"))
  ensure (decide (row.idempotencyKey ≠ ""))
    (.database (.checkViolation "collections_idempotency_key_check"))
  ensure (decide (row.requestHash ≠ ""))
    (.database (.checkViolation "collections_request_hash_check"))
  ensure (row.amountRaw.all (fun a => decide (a ≠ 0)))
    (.database (.checkViolation "collections_amount_raw_check"))
  ensure (db.collections.all (fun c => c.id ≠ row.id))
    (.database (.uniqueViolation "collections_pkey"))
  ensure (activePerChild (db.collections ++ [row]))
    (.database (.uniqueViolation "one_active_collection_per_child"))
  ensure (db.childAccounts.any
      (fun a => decide (a.id = row.childAccountId) && decide (a.address = row.fromAddress)))
    (.database (.foreignKeyViolation "collections_child_account_id_from_address_fkey"))
  ensure (db.treasuryAddresses.contains (row.chainId, row.tokenAddress, row.toAddress))
    (.database (.foreignKeyViolation "collections_chain_id_token_address_to_address_fkey"))
  return ({ db with collections := db.collections ++ [row] }, row)

/-- **`create_collection_idempotent`.** A collection with the same key answers
the request, then any active collection of the child account, then a new one.
The calls come one after another here, so the insert meets no row with the key
that has just been looked for, and the read that the source does after such a
conflict is not reached. -/
def createCollectionIdempotent (db : CollectorDb) (now : Timestamp)
    (command : CreateCollectionCommand) :
    Except RepositoryError (CollectorDb × CollectionRecord) :=
  match db.collections.find? (fun c => decide (c.ownerSub = command.ownerSub)
      && decide (c.idempotencyKey = command.idempotencyKey)) with
  | some existing => do
    ensureSameCollectionRequest existing command
    return (db, existing)
  | none =>
    match db.selectActiveCollectionByChildAccount command.childAccountId with
    | some active => .ok (db, active)
    | none => do
      db.lockCollectableOrder command
      db.insertCollection now command

/-- The collection stored under the key of a command, if there is one. -/
def keyed? (db : CollectorDb) (ownerSub idempotencyKey : String) : Option CollectionRecord :=
  db.collections.find? (fun c => decide (c.ownerSub = ownerSub)
    && decide (c.idempotencyKey = idempotencyKey))

/-- What an insert went through: the constraints on the new row. -/
structure Inserts (db : CollectorDb) (now : Timestamp) (command : CreateCollectionCommand) :
    Prop where
  fresh : ∀ d ∈ db.collections, d.id ≠ command.collectionId
  active : activePerChild (db.collections ++ [newCollection now command]) = true
  account : ∃ a ∈ db.childAccounts, a.id = command.childAccountId ∧ a.address = command.fromAddress
  amount : ∀ a, command.amountRaw = some a → a ≠ 0

/-- An insert appends the new row and met every constraint. -/
theorem insertCollection_eq_ok {db db' : CollectorDb} {now : Timestamp}
    {command : CreateCollectionCommand} {c : CollectionRecord}
    (h : db.insertCollection now command = .ok (db', c)) :
    db.Inserts now command ∧ c = newCollection now command
      ∧ db' = { db with collections := db.collections ++ [newCollection now command] } := by
  unfold insertCollection at h
  obtain ⟨_, h⟩ := ensure_bind_eq_ok.mp h
  obtain ⟨_, h⟩ := ensure_bind_eq_ok.mp h
  obtain ⟨_, h⟩ := ensure_bind_eq_ok.mp h
  obtain ⟨hamount, h⟩ := ensure_bind_eq_ok.mp h
  obtain ⟨hid, h⟩ := ensure_bind_eq_ok.mp h
  obtain ⟨hactive, h⟩ := ensure_bind_eq_ok.mp h
  obtain ⟨haccount, h⟩ := ensure_bind_eq_ok.mp h
  obtain ⟨_, h⟩ := ensure_bind_eq_ok.mp h
  obtain ⟨hdb, hrow⟩ := Prod.mk.inj (Except.pure_eq_ok.mp h)
  refine ⟨⟨fun d hd => ?_, hactive, ?_, fun a ha => ?_⟩, hrow.symm, hdb.symm⟩
  · exact of_decide_eq_true (List.all_eq_true.mp hid d hd)
  · obtain ⟨a, ha, hp⟩ := List.any_eq_true.mp haccount
    simp only [Bool.and_eq_true, decide_eq_true_eq] at hp
    exact ⟨a, ha, hp⟩
  · have hall : (command.amountRaw).all (fun a => decide (a ≠ 0)) = true := hamount
    rw [ha] at hall
    exact of_decide_eq_true hall

/-- **The three answers of `create_collection_idempotent`**: the collection of
the same request, the active collection of the child account, or a new one. -/
theorem createCollectionIdempotent_eq_ok {db db' : CollectorDb} {now : Timestamp}
    {command : CreateCollectionCommand} {c : CollectionRecord}
    (h : db.createCollectionIdempotent now command = .ok (db', c)) :
    (db.keyed? command.ownerSub command.idempotencyKey = some c
        ∧ c.requestHash = command.requestHash ∧ db' = db)
      ∨ (db.keyed? command.ownerSub command.idempotencyKey = none
        ∧ db.selectActiveCollectionByChildAccount command.childAccountId = some c ∧ db' = db)
      ∨ (db.keyed? command.ownerSub command.idempotencyKey = none
        ∧ db.selectActiveCollectionByChildAccount command.childAccountId = none
        ∧ db.lockCollectableOrder command = .ok () ∧ db.Inserts now command
        ∧ c = newCollection now command
        ∧ db' = { db with collections := db.collections ++ [newCollection now command] }) := by
  unfold createCollectionIdempotent at h
  split at h
  · rename_i existing hkey
    obtain ⟨_, hsame, h⟩ := Except.bind_eq_ok.mp h
    obtain ⟨hdb, rfl⟩ := Prod.mk.inj (Except.pure_eq_ok.mp h)
    exact Or.inl ⟨hkey, of_decide_eq_true (ensure_eq_ok.mp hsame), hdb.symm⟩
  · rename_i hkey
    split at h
    · rename_i active hactive
      obtain ⟨hdb, rfl⟩ := Prod.mk.inj (Except.ok.inj h)
      exact Or.inr (Or.inl ⟨hkey, hactive, hdb.symm⟩)
    · rename_i hnone
      obtain ⟨_, hlock, h⟩ := Except.bind_eq_ok.mp h
      obtain ⟨hins, hc, hdb⟩ := insertCollection_eq_ok h
      exact Or.inr (Or.inr ⟨hkey, hnone, hlock, hins, hc, hdb⟩)

/-- Creating a collection leaves the database alone or appends one queued
collection with a new identifier and no outbound transaction. -/
theorem createCollectionIdempotent_cases {db db' : CollectorDb} {now : Timestamp}
    {command : CreateCollectionCommand} {c : CollectionRecord}
    (h : db.createCollectionIdempotent now command = .ok (db', c)) :
    db' = db ∨ ((∀ d ∈ db.collections, d.id ≠ command.collectionId)
      ∧ activePerChild (db.collections ++ [newCollection now command]) = true
      ∧ db' = { db with collections := db.collections ++ [newCollection now command] }) := by
  obtain ⟨-, -, hdb⟩ | ⟨-, -, hdb⟩ | ⟨-, -, -, hins, -, hdb⟩ :=
    createCollectionIdempotent_eq_ok h
  · exact Or.inl hdb
  · exact Or.inl hdb
  · exact Or.inr ⟨hins.fresh, hins.active, hdb⟩

/-! ## Claiming a job -/

/-- The lease a claim writes on a collection. -/
def leased (now : Timestamp) (leaseSeconds : ℕ) (workerId : String) (c : CollectionRecord) :
    CollectionRecord :=
  { c with
    lockedBy := some workerId
    lockedUntil := some (now + seconds leaseSeconds)
    updatedAt := now }

/-- Whether the lease of a collection has run out, or none was taken. -/
def leaseFree (now : Timestamp) (c : CollectionRecord) : Bool :=
  c.lockedUntil.all (fun t => decide (t ≤ now))

/-- `collection_job_from_record`: the signing data of the child account. -/
def collectionJobFromRecord (db : CollectorDb) (c : CollectionRecord) :
    Except RepositoryError CollectionJob := do
  let account ← orError (db.childAccounts.find? (fun a => decide (a.id = c.childAccountId)))
    (.database .rowNotFound)
  return { collection := c
           signerKeyRef := account.signerKeyRef
           derivationVersion := account.derivationVersion
           derivationSegment := account.derivationSegment
           derivationPath := account.derivationPath }

/-- The collections `claim_collection_job` chooses from. -/
def claimableCollections (db : CollectorDb) (now : Timestamp) (chainId : ℕ)
    (tokenAddress : EvmAddress) : List CollectionRecord :=
  db.collections.filter (fun c => decide (c.status = .queued) && decide (c.chainId = chainId)
    && decide (c.tokenAddress = tokenAddress) && leaseFree now c)

/-- **`claim_collection_job`.** -/
def claimCollectionJob (db : CollectorDb) (now : Timestamp) (leaseSeconds : ℕ)
    (workerId : String) (chainId : ℕ) (tokenAddress : EvmAddress) :
    Except RepositoryError (CollectorDb × Option CollectionJob) := do
  let _ ← u64ToI64 leaseSeconds "claim_lease_seconds"
  let _ ← u64ToI64 chainId "chain_id"
  match firstBy (fun a b => decide (a.createdAt < b.createdAt)
      || (decide (a.createdAt = b.createdAt) && decide (a.id ≤ b.id)))
      (db.claimableCollections now chainId tokenAddress) with
  | none => return (db, none)
  | some c =>
    let claimed := { leased now leaseSeconds workerId c with attemptCount := c.attemptCount + 1 }
    let job ← db.collectionJobFromRecord claimed
    return ({ db with
      collections := updateWhere (fun d => decide (d.id = c.id)) (fun d =>
        { leased now leaseSeconds workerId d with attemptCount := d.attemptCount + 1 })
        db.collections }, some job)

/-- A claim leaves the database alone, or writes a lease on one queued
collection and returns that collection's job. -/
theorem claimCollectionJob_cases {db db' : CollectorDb} {now : Timestamp} {leaseSeconds : ℕ}
    {workerId : String} {chainId : ℕ} {tokenAddress : EvmAddress} {job : Option CollectionJob}
    (h : db.claimCollectionJob now leaseSeconds workerId chainId tokenAddress = .ok (db', job)) :
    (db' = db ∧ job = none) ∨ ∃ c ∈ db.collections, c.status = .queued ∧ c.chainId = chainId
      ∧ (∃ j, job = some j ∧ j.collection =
          { leased now leaseSeconds workerId c with attemptCount := c.attemptCount + 1 })
      ∧ db' = { db with
          collections := updateWhere (fun d => decide (d.id = c.id)) (fun d =>
            { leased now leaseSeconds workerId d with attemptCount := d.attemptCount + 1 })
            db.collections } := by
  unfold claimCollectionJob at h
  obtain ⟨_, _, h⟩ := Except.bind_eq_ok.mp h
  obtain ⟨_, _, h⟩ := Except.bind_eq_ok.mp h
  split at h
  · obtain ⟨h₁, h₂⟩ := Prod.mk.inj (Except.pure_eq_ok.mp h)
    exact Or.inl ⟨h₁.symm, h₂.symm⟩
  · rename_i c hc
    obtain ⟨j, hj, h⟩ := Except.bind_eq_ok.mp h
    obtain ⟨h₁, h₂⟩ := Prod.mk.inj (Except.pure_eq_ok.mp h)
    obtain ⟨hmem, hp⟩ := List.mem_filter.mp (mem_of_firstBy hc)
    simp only [Bool.and_eq_true, decide_eq_true_eq] at hp
    refine Or.inr ⟨c, hmem, hp.1.1.1, hp.1.1.2, ⟨j, h₂.symm, ?_⟩, h₁.symm⟩
    unfold collectionJobFromRecord at hj
    obtain ⟨_, _, hj⟩ := Except.bind_eq_ok.mp hj
    exact congrArg CollectionJob.collection (Except.pure_eq_ok.mp hj).symm

/-- **`get_collection_job`**: a read, with the row locked only while it
lasts. -/
def getCollectionJob (db : CollectorDb) (id : Uuid) :
    Except RepositoryError (Option CollectionJob) :=
  match db.collection? id with
  | none => .ok none
  | some c => do
    let job ← db.collectionJobFromRecord c
    return some job

end CollectorDb
