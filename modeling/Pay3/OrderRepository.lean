import Pay3.CollectionRepository
import Pay3.PaymentRepository

/-!
# Creating orders

An order is created with its child account and its payment window, in one
transaction. Its external id is the caller's idempotency key: a second request
under the same key answers with the stored order when the requests have the
same hash, and is refused otherwise.

The payment repositories and the collector read different columns of one table
of orders. `LedgerDb` holds both sides of the database and, as a field, that
the collector's orders are the columns it reads of the orders on the payment
side; the two setters keep it so. The columns only a creation reads and writes
stand in a table of their own, one row to an order.
-/

/-- The columns of an order the collector reads. -/
def OrderRecord.collectable (o : OrderRecord) : CollectableOrder where
  id := o.id
  ownerSub := o.ownerSub
  childAccountId := o.childAccountId
  chainId := o.chainId
  tokenAddress := o.tokenAddress
  receiveAddress := o.receiveAddress
  status := o.status

/-- The columns of an order and of its window that only a creation reads. -/
structure OrderKeyRecord where
  orderId : Uuid
  ownerSub : String
  externalId : String
  requestHash : String
  windowId : Uuid
  deriving DecidableEq

/-- **The whole database**: payments and collections over one table of orders. -/
structure LedgerDb where
  payment : PaymentDb
  orderKeys : List OrderKeyRecord
  collector : CollectorDb
  orders_eq : collector.orders = payment.orders.map OrderRecord.collectable
  deriving DecidableEq

namespace LedgerDb

/-- The database with other payment tables. -/
def setPayment (db : LedgerDb) (payment : PaymentDb) : LedgerDb where
  payment := payment
  orderKeys := db.orderKeys
  collector := { db.collector with orders := payment.orders.map OrderRecord.collectable }
  orders_eq := rfl

/-- The database with other collector tables, its orders left as they are. -/
def setCollector (db : LedgerDb) (collector : CollectorDb) : LedgerDb where
  payment := db.payment
  orderKeys := db.orderKeys
  collector := { collector with orders := db.payment.orders.map OrderRecord.collectable }
  orders_eq := rfl

@[simp] theorem setPayment_payment (db : LedgerDb) (payment : PaymentDb) :
    (db.setPayment payment).payment = payment := rfl

@[simp] theorem setPayment_collections (db : LedgerDb) (payment : PaymentDb) :
    (db.setPayment payment).collector.collections = db.collector.collections := rfl

@[simp] theorem setCollector_payment (db : LedgerDb) (collector : CollectorDb) :
    (db.setCollector collector).payment = db.payment := rfl

@[simp] theorem setCollector_collections (db : LedgerDb) (collector : CollectorDb) :
    (db.setCollector collector).collector.collections = collector.collections := rfl

/-- Writing back the collector tables that were read changes nothing. -/
theorem setCollector_collector (db : LedgerDb) : db.setCollector db.collector = db := by
  obtain ⟨payment, orderKeys, collector, horders⟩ := db
  unfold setCollector
  dsimp only
  congr 1
  rw [← horders]

end LedgerDb

/-! ## The command -/

/-- `NewChildAccount`. -/
abbrev NewChildAccount := ChildAccountRecord

/-- `NewPaymentWindow`. -/
structure NewPaymentWindow where
  id : Uuid
  orderId : Uuid
  childAccountId : Uuid
  receiveAddress : EvmAddress
  windowFrom : Timestamp
  windowFromBlock : ChainBlockRef
  expiresAt : Timestamp
  monitorUntil : Timestamp
  deriving DecidableEq

/-- `CreateOrderCommand`. -/
structure CreateOrderCommand where
  orderId : Uuid
  ownerSub : String
  externalId : String
  requestHash : String
  childAccount : NewChildAccount
  chainId : ℕ
  tokenAddress : EvmAddress
  expectedAmountRaw : RawAmount
  paymentWindow : NewPaymentWindow
  deriving DecidableEq

/-- `CreateOrderOutcome`. -/
inductive CreateOrderOutcome
  | created (order : OrderRecord)
  | existing (order : OrderRecord)
  deriving DecidableEq

/-- `derivation_path`. -/
def DerivationSegment.derivationPath (s : DerivationSegment) : String :=
  "m/44'/60'/" ++ toString s.accountIndex ++ "'/" ++ toString s.changeIndex ++ "/"
    ++ toString s.addressIndex

/-- **`validate_create_order_command`**: the parts of the command agree. -/
def validateCreateOrderCommand (command : CreateOrderCommand) : Except RepositoryError Unit := do
  ensure (decide (trimText command.ownerSub ≠ ""))
    (.invariantViolation "order owner_sub must not be empty")
  ensure (decide (command.paymentWindow.orderId = command.orderId))
    (.invariantViolation "payment_window.order_id does not match command.order_id")
  ensure (decide (command.paymentWindow.childAccountId = command.childAccount.id))
    (.invariantViolation "payment_window.child_account_id does not match child_account.id")
  ensure (decide (command.paymentWindow.receiveAddress = command.childAccount.address))
    (.invariantViolation "payment_window.receive_address does not match child_account.address")
  let expectedPath := command.childAccount.derivationSegment.derivationPath
  ensure (decide (command.childAccount.derivationPath = expectedPath))
    (.invariantViolation ("child_account.derivation_path does not match segment: expected "
      ++ expectedPath ++ ", got " ++ command.childAccount.derivationPath))

/-- `u32_to_i32`. -/
def u32ToI32 (value : ℕ) (field : String) : Except RepositoryError ℕ :=
  if value ≤ 2147483647 then .ok value else .error (.integerOutOfRange field)

/-! ## The three inserts -/

/-- What the table of child accounts asks of a new row. -/
def checkChildAccountRow (accounts : List ChildAccountRecord) (row : ChildAccountRecord) :
    Except RepositoryError Unit := do
  ensure (decide (row.signerKeyRef ≠ ""))
    (.database (.checkViolation "child_accounts_signer_key_ref_check"))
  ensure (decide (0 < row.derivationVersion))
    (.database (.checkViolation "child_accounts_derivation_version_check"))
  ensure (accounts.all (fun a => decide (a.id ≠ row.id)))
    (.database (.uniqueViolation "child_accounts_pkey"))
  ensure (accounts.all (fun a => decide (a.address ≠ row.address)))
    (.database (.uniqueViolation "child_accounts_address_key"))
  ensure (accounts.all (fun a => !(decide (a.signerKeyRef = row.signerKeyRef)
      && decide (a.derivationVersion = row.derivationVersion)
      && decide (a.derivationSegment = row.derivationSegment))))
    (.database (.uniqueViolation
      "child_accounts_signer_key_ref_derivation_version_account_in_key"))

/-- The row of `orders` a creation inserts: pending, with nothing paid. -/
def newOrder (command : CreateOrderCommand) : OrderRecord where
  id := command.orderId
  ownerSub := command.ownerSub
  childAccountId := command.childAccount.id
  receiveAddress := command.childAccount.address
  chainId := command.chainId
  tokenAddress := command.tokenAddress
  expectedAmountRaw := command.expectedAmountRaw
  paidAmountRaw := 0
  status := .pending
  expiresAt := command.paymentWindow.expiresAt
  monitorUntil := command.paymentWindow.monitorUntil

/-- The row of `payment_windows` a creation inserts. -/
def newPaymentWindow (command : CreateOrderCommand) : PaymentWindowRecord where
  orderId := command.orderId
  receiveAddress := command.childAccount.address
  windowFromBlock := command.paymentWindow.windowFromBlock
  expiresAt := command.paymentWindow.expiresAt
  monitorUntil := command.paymentWindow.monitorUntil

/-- The key columns a creation inserts. -/
def newOrderKey (command : CreateOrderCommand) : OrderKeyRecord where
  orderId := command.orderId
  ownerSub := command.ownerSub
  externalId := command.externalId
  requestHash := command.requestHash
  windowId := command.paymentWindow.id

/-- What the table of orders asks of a new row. -/
def checkOrderRow (db : LedgerDb) (command : CreateOrderCommand) : Except RepositoryError Unit := do
  ensure (decide (command.paymentWindow.expiresAt ≤ command.paymentWindow.monitorUntil))
    (.database (.checkViolation "orders_check"))
  ensure (decide (0 < command.expectedAmountRaw.toNat))
    (.database (.checkViolation "orders_expected_amount_raw_check"))
  ensure (decide (command.externalId ≠ ""))
    (.database (.checkViolation "orders_external_id_check"))
  ensure (decide (command.ownerSub ≠ "")) (.database (.checkViolation "orders_owner_sub_not_empty"))
  ensure (decide (command.requestHash ≠ ""))
    (.database (.checkViolation "orders_request_hash_check"))
  ensure (db.payment.orders.all (fun o => decide (o.id ≠ command.orderId)))
    (.database (.uniqueViolation "orders_pkey"))
  ensure (db.payment.orders.all
      (fun o => decide (o.receiveAddress ≠ command.childAccount.address)))
    (.database (.uniqueViolation "orders_receive_address_key"))
  ensure (db.orderKeys.all (fun k => !(decide (k.ownerSub = command.ownerSub)
      && decide (k.externalId = command.externalId))))
    (.database (.uniqueViolation "orders_owner_external_id_idx"))

/-- What the table of payment windows asks of a new row. -/
def checkPaymentWindowRow (db : LedgerDb) (command : CreateOrderCommand) :
    Except RepositoryError Unit := do
  ensure (decide (command.paymentWindow.windowFrom < command.paymentWindow.expiresAt))
    (.database (.checkViolation "payment_windows_check"))
  ensure (decide (command.paymentWindow.expiresAt ≤ command.paymentWindow.monitorUntil))
    (.database (.checkViolation "payment_windows_check1"))
  ensure (db.orderKeys.all (fun k => decide (k.windowId ≠ command.paymentWindow.id)))
    (.database (.uniqueViolation "payment_windows_pkey"))
  ensure (db.payment.windows.all (fun w => decide (w.orderId ≠ command.orderId)))
    (.database (.uniqueViolation "payment_windows_order_id_key"))

/-- The database with the three rows of a new order. -/
def LedgerDb.withOrder (db : LedgerDb) (command : CreateOrderCommand) : LedgerDb where
  payment := { db.payment with
    orders := db.payment.orders ++ [newOrder command]
    windows := db.payment.windows ++ [newPaymentWindow command] }
  orderKeys := db.orderKeys ++ [newOrderKey command]
  collector := { db.collector with
    childAccounts := db.collector.childAccounts ++ [command.childAccount]
    orders := (db.payment.orders ++ [newOrder command]).map OrderRecord.collectable }
  orders_eq := rfl

/-- `row_to_order_record`: the row, if what it was paid can be read as an
on-chain amount. -/
def rowToOrderRecord (o : OrderRecord) : Except RepositoryError OrderRecord := do
  let _ ← bigDecimalToRawAmount o.paidAmountRaw
  pure o

/-- `fetch_order_by_id_tx`. -/
def fetchOrderByIdTx (db : LedgerDb) (id : Uuid) : Except RepositoryError (Option OrderRecord) :=
  match db.payment.orders.find? (fun o => decide (o.id = id)) with
  | none => .ok none
  | some o => (rowToOrderRecord o).map some

/-- **`insert_order_tx`**: the child account, the order and its window. -/
def insertOrderTx (db : LedgerDb) (command : CreateOrderCommand) :
    Except RepositoryError (OrderRecord × LedgerDb) := do
  validateCreateOrderCommand command
  let _ ← u64ToI64 command.chainId "chain_id"
  let _ ← u32ToI32 command.childAccount.derivationVersion "child_accounts.derivation_version"
  let _ ← u64ToI64 command.paymentWindow.windowFromBlock.number "window_from_block"
  checkChildAccountRow db.collector.childAccounts command.childAccount
  checkOrderRow db command
  checkPaymentWindowRow db command
  let db' := db.withOrder command
  let row ← fetchOrderByIdTx db' command.orderId
  let order ← orError row (.invariantViolation
    ("created order " ++ command.orderId.hyphenated ++ " was not readable"))
  pure (order, db')

/-- The key columns of the order an owner has under an external id, and the
order itself: `fetch_order_by_external_id_tx`. -/
def fetchOrderByExternalIdTx (db : LedgerDb) (externalId ownerSub : String) :
    Except RepositoryError (Option (OrderKeyRecord × OrderRecord)) :=
  match db.orderKeys.find? (fun k => decide (k.externalId = externalId)
      && decide (k.ownerSub = ownerSub)) with
  | none => .ok none
  | some key => do
    let row ← fetchOrderByIdTx db key.orderId
    pure (row.map (fun o => (key, o)))

/-- **`create_order_idempotent`.** The advisory lock keeps two creations under
one key apart, so each runs as if alone. -/
def createOrderIdempotent (db : LedgerDb) (command : CreateOrderCommand) :
    Except RepositoryError (CreateOrderOutcome × LedgerDb) := do
  match ← fetchOrderByExternalIdTx db command.externalId command.ownerSub with
  | some (key, order) =>
    ensure (decide (key.requestHash = command.requestHash))
      (.idempotencyConflict "orders" command.externalId (some order.id))
    pure (.existing order, db)
  | none => do
    let (order, db') ← insertOrderTx db command
    pure (.created order, db')

/-! ## What a creation does -/

/-- What the inserts of a creation went through: the checks a later proof
needs. -/
structure LedgerDb.Creates (db : LedgerDb) (command : CreateOrderCommand) : Prop where
  expected : 0 < command.expectedAmountRaw.toNat
  fresh : ∀ o ∈ db.payment.orders, o.id ≠ command.orderId
  freshAddress : ∀ o ∈ db.payment.orders, o.receiveAddress ≠ command.childAccount.address
  freshAccount : ∀ a ∈ db.collector.childAccounts, a.id ≠ command.childAccount.id
  freshAccountAddress : ∀ a ∈ db.collector.childAccounts,
    a.address ≠ command.childAccount.address

theorem checkOrderRow_eq_ok {db : LedgerDb} {command : CreateOrderCommand}
    (h : checkOrderRow db command = .ok ()) :
    0 < command.expectedAmountRaw.toNat ∧ (∀ o ∈ db.payment.orders, o.id ≠ command.orderId)
      ∧ ∀ o ∈ db.payment.orders, o.receiveAddress ≠ command.childAccount.address := by
  unfold checkOrderRow at h
  obtain ⟨-, h⟩ := ensure_bind_eq_ok.mp h
  obtain ⟨hexp, h⟩ := ensure_bind_eq_ok.mp h
  obtain ⟨-, h⟩ := ensure_bind_eq_ok.mp h
  obtain ⟨-, h⟩ := ensure_bind_eq_ok.mp h
  obtain ⟨-, h⟩ := ensure_bind_eq_ok.mp h
  obtain ⟨hid, h⟩ := ensure_bind_eq_ok.mp h
  obtain ⟨haddr, -⟩ := ensure_bind_eq_ok.mp h
  exact ⟨of_decide_eq_true hexp, by simpa using hid, by simpa using haddr⟩

theorem checkChildAccountRow_eq_ok {accounts : List ChildAccountRecord} {row : ChildAccountRecord}
    (h : checkChildAccountRow accounts row = .ok ()) :
    (∀ a ∈ accounts, a.id ≠ row.id) ∧ ∀ a ∈ accounts, a.address ≠ row.address := by
  unfold checkChildAccountRow at h
  obtain ⟨-, h⟩ := ensure_bind_eq_ok.mp h
  obtain ⟨-, h⟩ := ensure_bind_eq_ok.mp h
  obtain ⟨hid, h⟩ := ensure_bind_eq_ok.mp h
  obtain ⟨haddr, -⟩ := ensure_bind_eq_ok.mp h
  exact ⟨by simpa using hid, by simpa using haddr⟩

theorem rowToOrderRecord_eq_ok {o o' : OrderRecord} (h : rowToOrderRecord o = .ok o') : o' = o := by
  unfold rowToOrderRecord at h
  obtain ⟨_, -, h⟩ := Except.bind_eq_ok.mp h
  exact (Except.ok.inj h).symm

/-- **A creation** answers with a stored order and changes nothing, or adds the
rows of a new one. -/
theorem createOrderIdempotent_eq_ok {db db' : LedgerDb} {command : CreateOrderCommand}
    {outcome : CreateOrderOutcome}
    (h : createOrderIdempotent db command = .ok (outcome, db')) :
    (∃ key order, fetchOrderByExternalIdTx db command.externalId command.ownerSub
        = .ok (some (key, order)) ∧ key.requestHash = command.requestHash
        ∧ outcome = .existing order ∧ db' = db)
      ∨ ∃ order, outcome = .created order
        ∧ fetchOrderByIdTx (db.withOrder command) command.orderId = .ok (some order)
        ∧ db.Creates command ∧ db' = db.withOrder command := by
  unfold createOrderIdempotent at h
  obtain ⟨found, hfound, h⟩ := Except.bind_eq_ok.mp h
  cases found with
  | some row =>
    obtain ⟨key, order⟩ := row
    obtain ⟨hhash, h⟩ := ensure_bind_eq_ok.mp h
    obtain ⟨rfl, rfl⟩ := Prod.mk.inj (Except.pure_eq_ok.mp h)
    exact Or.inl ⟨key, order, hfound, of_decide_eq_true hhash, rfl, rfl⟩
  | none =>
    obtain ⟨⟨order, db₁⟩, hins, h⟩ := Except.bind_eq_ok.mp h
    obtain ⟨rfl, rfl⟩ := Prod.mk.inj (Except.pure_eq_ok.mp h)
    unfold insertOrderTx at hins
    obtain ⟨_, -, hins⟩ := Except.bind_eq_ok.mp hins
    obtain ⟨_, -, hins⟩ := Except.bind_eq_ok.mp hins
    obtain ⟨_, -, hins⟩ := Except.bind_eq_ok.mp hins
    obtain ⟨_, -, hins⟩ := Except.bind_eq_ok.mp hins
    obtain ⟨_, haccount, hins⟩ := Except.bind_eq_ok.mp hins
    obtain ⟨_, horder, hins⟩ := Except.bind_eq_ok.mp hins
    obtain ⟨_, -, hins⟩ := Except.bind_eq_ok.mp hins
    obtain ⟨row, hrow, hins⟩ := Except.bind_eq_ok.mp hins
    obtain ⟨created, hcreated, hins⟩ := Except.bind_eq_ok.mp hins
    obtain ⟨rfl, rfl⟩ := Prod.mk.inj (Except.pure_eq_ok.mp hins)
    rw [orError_eq_ok.mp hcreated] at hrow
    obtain ⟨hexp, hid, haddr⟩ := checkOrderRow_eq_ok horder
    obtain ⟨hacc, haccAddr⟩ := checkChildAccountRow_eq_ok haccount
    exact Or.inr ⟨_, rfl, hrow, ⟨hexp, hid, haddr, hacc, haccAddr⟩, rfl⟩
