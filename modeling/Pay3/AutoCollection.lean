import Pay3.CollectionCoherence
import Pay3.CollectionRoutes
import Pay3.OrdersReflectPayments
import Mathlib.Logic.Function.Basic

/-!
# The auto-enqueuer and the system around it

The enqueuer asks, again and again, for the collections that are due. A pass
reads the paid orders without a collection and asks for each of them to be
swept to the treasury; then it reads the orders with problem funds and asks
for each of them to be swept, whatever its balance is, to the address for
problem funds. Each query and each request is a transaction of its own, so the
rest of the system runs in between, and an order the query listed may be in
another state by the time its collection is asked for.

The system is the database with the transactions of orders and payments, the
requests for collections of callers and of any number of enqueuers, and the
transactions of the collector, in any interleaving. `LedgerChange` lists what
a step can do to the database, with the step that does it.
-/

/-- `RuntimeError`, as the queries raise it. -/
inductive RuntimeError
  | config (message : String)
  | repository (error : RepositoryError)
  deriving DecidableEq

/-- `raw_amount_from_db_text`. -/
def rawAmountFromDbText (value : ℕ) : Except RuntimeError RawAmount :=
  if value < 2 ^ 256 then .ok (BitVec.ofNat 256 value)
  else .error (.repository (.invalidDbValue "numeric(78,0)" (toString value)
    "invalid raw amount: amount overflows uint256"))

/-- The configured chain id as the queries bind it. -/
def bindChainId (chainId : ℕ) : Except RuntimeError Unit :=
  ensure (decide (chainId ≤ i64Max)) (.config
    "CHAIN_ID does not fit PostgreSQL bigint: out of range integral type conversion attempted")

/-! ## The candidates -/

/-- `PaidCollectionCandidate`. -/
structure PaidCollectionCandidate where
  orderId : Uuid
  paidAmountRaw : RawAmount
  deriving DecidableEq

/-- `ProblemFundsCollectionCandidate`. -/
structure ProblemFundsCollectionCandidate where
  orderId : Uuid
  problemPaymentTotalRaw : RawAmount
  deriving DecidableEq

namespace LedgerDb

/-- An operator accepted late payments of the order. -/
def hasOverride (db : LedgerDb) (orderId : Uuid) : Bool :=
  db.payment.overrides.any (fun ov => decide (ov.orderId = orderId))

/-- The order has a collection, whatever became of it. -/
def hasCollection (db : LedgerDb) (orderId : Uuid) : Bool :=
  db.collector.collections.any (fun c => decide (c.orderId = orderId))

/-- The order has an active collection. -/
def hasActiveCollection (db : LedgerDb) (orderId : Uuid) : Bool :=
  db.collector.collections.any (fun c => decide (c.orderId = orderId) && c.status.isActive)

/-- **`SUM(amount_raw) FILTER (WHERE q)`** over the collections of an order; an
amount that is not known yet does not count. -/
def collectedWhere (db : LedgerDb) (q : CollectionRecord → Bool) (orderId : Uuid) : ℕ :=
  ((db.collector.collections.filter (fun c => decide (c.orderId = orderId) && q c)).map
    (fun c => (c.amountRaw.map BitVec.toNat).getD 0)).sum

/-- The rows `paid_orders_without_collections` selects. -/
def isPaidWithoutCollection (db : LedgerDb) (chainId : ℕ) (tokenAddress : EvmAddress)
    (o : OrderRecord) : Bool :=
  decide (o.chainId = chainId) && decide (o.tokenAddress = tokenAddress)
    && decide (o.status = .paid) && decide (0 < o.paidAmountRaw)
    && !db.hasOverride o.id && !db.hasCollection o.id

/-- **`paid_orders_without_collections`**: those updated longest ago first.
Nothing else reads `updated_at`, so the column is an argument. -/
def paidOrdersWithoutCollections (db : LedgerDb) (updatedAt : Uuid → Timestamp) (chainId : ℕ)
    (tokenAddress : EvmAddress) (limit : ℕ) :
    Except RuntimeError (List PaidCollectionCandidate) := do
  bindChainId chainId
  let rows := (db.payment.orders.filter (db.isPaidWithoutCollection chainId tokenAddress))
    |>.insertionSort (fun a b => updatedAt a.id < updatedAt b.id
      ∨ (updatedAt a.id = updatedAt b.id ∧ a.id ≤ b.id))
  collectOk (fun o => do
    let paidAmountRaw ← rawAmountFromDbText o.paidAmountRaw
    pure ⟨o.id, paidAmountRaw⟩) (rows.take limit)

/-- The payments that count as problem funds of an order: all confirmed ones
once it has expired, the late ones while it is paid. -/
def isProblemPayment (status : OrderStatus) (p : PaymentRecord) : Bool :=
  decide (p.chainStatus = .confirmed) && (decide (status = .expired)
    || (decide (status = .paid)
      && (decide (p.matchStatus = .late) || decide (p.matchStatus = .outsideWindow))))

/-- `problem_payment_total_raw`. -/
def problemPaymentTotal (db : LedgerDb) (o : OrderRecord) : ℕ :=
  totalWhere (isProblemPayment o.status) db.payment.payments o.id

/-- The collections of one stream to one address. -/
def isCollectionTo (chainId : ℕ) (tokenAddress toAddress : EvmAddress) (c : CollectionRecord) :
    Bool :=
  decide (c.chainId = chainId) && decide (c.tokenAddress = tokenAddress)
    && decide (c.toAddress = toAddress)

/-- `confirmed_problem_collection_total_raw`. -/
def confirmedProblemCollectionTotal (db : LedgerDb) (chainId : ℕ)
    (tokenAddress problemFundsAddress : EvmAddress) (orderId : Uuid) : ℕ :=
  db.collectedWhere (fun c => isCollectionTo chainId tokenAddress problemFundsAddress c
    && decide (c.status = .confirmed)) orderId

/-- The rows `problem_funds_orders_ready_for_collection` selects. -/
def isProblemFundsReady (db : LedgerDb) (chainId : ℕ) (tokenAddress problemFundsAddress : EvmAddress)
    (o : OrderRecord) : Bool :=
  decide (o.chainId = chainId) && decide (o.tokenAddress = tokenAddress)
    && db.payment.payments.any (fun p => decide (p.orderId = o.id) && isProblemPayment o.status p)
    && decide (db.confirmedProblemCollectionTotal chainId tokenAddress problemFundsAddress o.id
      < db.problemPaymentTotal o)
    && !db.collector.collections.any (fun c => decide (c.orderId = o.id)
      && isCollectionTo chainId tokenAddress problemFundsAddress c && c.status.isActive)
    && !db.hasActiveCollection o.id

/-- **`problem_funds_orders_ready_for_collection`**, by order id. -/
def problemFundsOrdersReadyForCollection (db : LedgerDb) (chainId : ℕ)
    (tokenAddress problemFundsAddress : EvmAddress) (limit : ℕ) :
    Except RuntimeError (List ProblemFundsCollectionCandidate) := do
  bindChainId chainId
  let rows := (db.payment.orders.filter
      (db.isProblemFundsReady chainId tokenAddress problemFundsAddress))
    |>.insertionSort (fun a b => a.id ≤ b.id)
  collectOk (fun o => do
    let total ← rawAmountFromDbText (db.problemPaymentTotal o)
    pure ⟨o.id, total⟩) (rows.take limit)

end LedgerDb

/-- The request of the paid pass. -/
def PaidCollectionCandidate.input (c : PaidCollectionCandidate) : CreateCollectionInput where
  orderId := c.orderId
  amount := .exact c.paidAmountRaw
  idempotencyKey := "auto-collect-" ++ c.orderId.hyphenated
  principalSub := none

/-- The request of the problem funds pass: the whole balance. -/
def ProblemFundsCollectionCandidate.input (c : ProblemFundsCollectionCandidate) :
    CreateCollectionInput where
  orderId := c.orderId
  amount := .max
  idempotencyKey := "auto-problem-funds-" ++ c.orderId.hyphenated ++ "-"
    ++ toString c.problemPaymentTotalRaw.toNat
  principalSub := none

/-! ## The system -/

/-- Where an enqueuer stands in `enqueue_orders_for_collection`. -/
inductive EnqueuerPc
  | idle
  | paid (batchLimit : ℕ) (rest : List PaidCollectionCandidate)
  | problem (rest : List ProblemFundsCollectionCandidate)
  deriving DecidableEq

/-- The problem funds pass, over once nothing is left. -/
def EnqueuerPc.ofProblem : List ProblemFundsCollectionCandidate → EnqueuerPc
  | [] => .idle
  | rest => .problem rest

/-- The transactions of the collector, of all calls. -/
def CollectionCall.isCollector : CollectionCall → Bool
  | .createCollection _ | .setOrders _ | .addChildAccount _ => false
  | _ => true

/-- **The state of the system.** -/
structure LedgerSystem where
  db : LedgerDb
  now : Timestamp
  enqueuers : ℕ → EnqueuerPc

/-- **The actions.** -/
inductive LedgerAction
  | order (op : OrderOp)
  | createCollection (route : CollectionRoute) (input : CreateCollectionInput)
      (collectionId : Uuid)
  | startPaidPass (i batchLimit : ℕ) (updatedAt : Uuid → Timestamp)
  | enqueuePaid (i : ℕ) (collectionId : Uuid)
  | startProblemPass (i : ℕ)
  | enqueueProblem (i : ℕ) (collectionId : Uuid)
  | collector (call : CollectionCall)

/-- The transaction on payments an action runs. -/
def LedgerAction.paymentOp? : LedgerAction → Option PaymentOp
  | .order (.payment op) => some op
  | _ => none

namespace LedgerSystem

/-- The enqueuer `i` goes on at `pc`. -/
def setEnqueuer (s : LedgerSystem) (i : ℕ) (pc : EnqueuerPc) : LedgerSystem :=
  { s with enqueuers := Function.update s.enqueuers i pc }

/-- The collection an action asks for, and how the enqueuer that asks goes on. -/
def request? (s : LedgerSystem) :
    LedgerAction → Option (CollectionRoute × CreateCollectionInput × Uuid × LedgerSystem)
  | .createCollection route input collectionId => some (route, input, collectionId, s)
  | .enqueuePaid i collectionId =>
    match s.enqueuers i with
    | .paid batchLimit (c :: rest) =>
      some (.treasury, c.input, collectionId, s.setEnqueuer i (.paid batchLimit rest))
    | _ => none
  | .enqueueProblem i collectionId =>
    match s.enqueuers i with
    | .problem (c :: rest) =>
      some (.problemFunds, c.input, collectionId, s.setEnqueuer i (.ofProblem rest))
    | _ => none
  | _ => none

variable (keccak256 : List UInt8 → BitVec 256) (config : CollectionServiceConfig)

/-- The database after a request; one that fails leaves it as it was. -/
def requested (db : LedgerDb) (now : Timestamp) (route : CollectionRoute)
    (input : CreateCollectionInput) (collectionId : Uuid) : LedgerDb :=
  match createCollectionForRoute keccak256 config db now route input collectionId with
  | .ok (db', _) => db'
  | .error _ => db

/-- What an action does, at a time. An action out of turn is refused; a
transaction that fails leaves the database as it was. -/
def act (s : LedgerSystem) (now : Timestamp) : LedgerAction → Option LedgerSystem
  | .order op =>
    match runOrderOp s.db now op with
    | .ok db' => some { s with db := db' }
    | .error _ => some s
  | .startPaidPass i batchLimit updatedAt =>
    if s.enqueuers i = .idle then
      if batchLimit = 0 then some s
      else
        match s.db.paidOrdersWithoutCollections updatedAt config.chainId config.tokenAddress
            batchLimit with
        | .ok candidates => some (s.setEnqueuer i (.paid batchLimit candidates))
        | .error _ => some s
    else none
  | .startProblemPass i =>
    match s.enqueuers i with
    | .paid batchLimit [] =>
      match s.db.problemFundsOrdersReadyForCollection config.chainId config.tokenAddress
          config.problemFundsAddress batchLimit with
      | .ok candidates => some (s.setEnqueuer i (.ofProblem candidates))
      | .error _ => some (s.setEnqueuer i .idle)
    | _ => none
  | .collector call =>
    if call.isCollector then
      match s.db.collector.runCall now call with
      | .ok collector => some { s with db := s.db.setCollector collector }
      | .error _ => some s
    else none
  | a =>
    match s.request? a with
    | some (route, input, collectionId, s') =>
      some { s' with db := requested keccak256 config s.db now route input collectionId }
    | none => none

/-- **One step**, no earlier than the last. -/
def step (s : LedgerSystem) (a : Timestamp × LedgerAction) : Option LedgerSystem :=
  if s.now ≤ a.1 then (act keccak256 config s a.1 a.2).map (fun s' => { s' with now := a.1 })
  else none

/-- Nothing has happened yet: no orders, no collections, and every enqueuer
between two passes. -/
structure Initial (s : LedgerSystem) : Prop where
  noOrders : s.db.NoOrders
  collector : s.db.collector.Empty
  idle : ∀ i, s.enqueuers i = .idle

end LedgerSystem

/-! ## What a step can do -/

/-- **A request that was granted**: the order it names is in a status its route
accepts and on the configured stream, nothing answers the request, and the new
row meets the constraints. -/
structure Grants (keccak256 : List UInt8 → BitVec 256) (config : CollectionServiceConfig)
    (db : LedgerDb) (now : Timestamp) (route : CollectionRoute) (input : CreateCollectionInput)
    (collectionId : Uuid) (command : CreateCollectionCommand) (o : OrderRecord) : Prop where
  mem : o ∈ db.payment.orders
  id : o.id = input.orderId
  accepts : route.accepts o.status = true
  chain : o.chainId = config.chainId
  token : o.tokenAddress = config.tokenAddress
  command_eq : command = createCollectionCommand keccak256 config route
    { input with idempotencyKey := trimText input.idempotencyKey } collectionId o
  unkeyed : db.collector.keyed? command.ownerSub command.idempotencyKey = none
  inactive : db.collector.selectActiveCollectionByChildAccount command.childAccountId = none
  inserts : db.collector.Inserts now command

/-- The database with one more collection. -/
def LedgerDb.withCollection (db : LedgerDb) (now : Timestamp) (command : CreateCollectionCommand) :
    LedgerDb :=
  db.setCollector { db.collector with
    collections := db.collector.collections ++ [CollectorDb.newCollection now command] }

/-- A view that was read is an order of the table. -/
theorem getOrderView_eq_ok {db : LedgerDb} {id : Uuid} {ownerSub : Option String} {o : OrderRecord}
    (h : getOrderView db id ownerSub = .ok (some o)) :
    o ∈ db.payment.orders ∧ o.id = id ∧ (∀ owner, ownerSub = some owner → o.ownerSub = owner)
      ∧ o.paidAmountRaw < 2 ^ 256 := by
  unfold getOrderView at h
  split at h
  · cases h
  · rename_i o' ho
    obtain ⟨r, hr, hro⟩ := Except.map_eq_ok.mp h
    unfold rowToOrderRecord at hr
    obtain ⟨raw, hraw, hr⟩ := Except.bind_eq_ok.mp hr
    obtain rfl := Except.pure_eq_ok.mp hr
    obtain rfl := Option.some.inj hro
    have hcond := List.find?_some ho
    simp only [Bool.and_eq_true, decide_eq_true_eq] at hcond
    refine ⟨List.mem_of_find?_eq_some ho, hcond.1.1.1, fun owner hown => ?_, ?_⟩
    · have hall := hcond.1.1.2
      rw [hown] at hall
      exact of_decide_eq_true hall
    · rw [← bigDecimalToRawAmount_toNat hraw]
      exact raw.isLt

/-- **A request that succeeds** went through the checks of the service and then
through those of the repository. -/
theorem createCollectionForRoute_eq_ok {keccak256 : List UInt8 → BitVec 256}
    {config : CollectionServiceConfig} {db db' : LedgerDb} {now : Timestamp}
    {route : CollectionRoute} {input : CreateCollectionInput} {collectionId : Uuid}
    {outcome : CreateCollectionOutcome} {c : CollectionRecord} :
    createCollectionForRoute keccak256 config db now route input collectionId
        = .ok (db', outcome, c)
      ↔ ∃ o collector, input.amount.validate = .ok () ∧ trimText input.idempotencyKey ≠ ""
        ∧ getOrderView db input.orderId input.principalSub = .ok (some o)
        ∧ route.accepts o.status = true ∧ o.chainId = config.chainId
        ∧ o.tokenAddress = config.tokenAddress
        ∧ db.collector.createCollectionIdempotent now (createCollectionCommand keccak256 config
            route { input with idempotencyKey := trimText input.idempotencyKey } collectionId o)
          = .ok (collector, c)
        ∧ db' = db.setCollector collector
        ∧ outcome = if c.id = collectionId then .created else .existing := by
  unfold createCollectionForRoute normalizeCreateCollectionInput validateCollectableOrder
  constructor
  · intro h
    obtain ⟨input', hinput, h⟩ := Except.bind_eq_ok.mp h
    obtain ⟨⟨⟩, hamount, hinput⟩ := Except.bind_eq_ok.mp hinput
    obtain ⟨hkey, hinput⟩ := ensure_bind_eq_ok.mp hinput
    obtain rfl := Except.pure_eq_ok.mp hinput
    obtain ⟨view, hview, h⟩ := Except.bind_eq_ok.mp h
    obtain ⟨o, ho, h⟩ := Except.bind_eq_ok.mp h
    rw [orError_eq_ok.mp ho] at hview
    obtain ⟨⟨⟩, hvalid, h⟩ := Except.bind_eq_ok.mp h
    obtain ⟨haccepts, hstream⟩ := ensure_bind_eq_ok.mp hvalid
    have hstream := ensure_eq_ok.mp hstream
    simp only [Bool.and_eq_true, decide_eq_true_eq] at hstream
    obtain ⟨⟨collector, c'⟩, hcreate, h⟩ := Except.bind_eq_ok.mp h
    obtain ⟨hdb, hrest⟩ := Prod.mk.inj (Except.pure_eq_ok.mp h)
    obtain ⟨houtcome, rfl⟩ := Prod.mk.inj hrest
    exact ⟨o, collector, hamount, of_decide_eq_true hkey, Except.mapError_eq_ok.mp hview,
      haccepts, hstream.1, hstream.2, Except.mapError_eq_ok.mp hcreate, hdb.symm, houtcome.symm⟩
  · rintro ⟨o, collector, hamount, hkey, hview, haccepts, hchain, htoken, hcreate, rfl, rfl⟩
    refine Except.bind_eq_ok.mpr ⟨{ input with idempotencyKey := trimText input.idempotencyKey },
      Except.bind_eq_ok.mpr ⟨(), hamount, ensure_bind_eq_ok.mpr ⟨decide_eq_true hkey, rfl⟩⟩, ?_⟩
    refine Except.bind_eq_ok.mpr ⟨some o, Except.mapError_eq_ok.mpr hview, ?_⟩
    refine Except.bind_eq_ok.mpr ⟨o, rfl, Except.bind_eq_ok.mpr ⟨(), ?_, ?_⟩⟩
    · exact ensure_bind_eq_ok.mpr ⟨haccepts, ensure_eq_ok.mpr (by simp [hchain, htoken])⟩
    · exact Except.bind_eq_ok.mpr ⟨(collector, c), Except.mapError_eq_ok.mpr hcreate, rfl⟩

namespace LedgerSystem

variable {keccak256 : List UInt8 → BitVec 256} {config : CollectionServiceConfig}

/-- A request leaves the database alone, or is granted and adds a collection. -/
theorem requested_cases (keccak256 : List UInt8 → BitVec 256) (config : CollectionServiceConfig)
    (db : LedgerDb) (now : Timestamp) (route : CollectionRoute) (input : CreateCollectionInput)
    (collectionId : Uuid) :
    requested keccak256 config db now route input collectionId = db
      ∨ ∃ command o, Grants keccak256 config db now route input collectionId command o
        ∧ requested keccak256 config db now route input collectionId
          = db.withCollection now command := by
  unfold requested
  split
  · rename_i db' result hx
    obtain ⟨outcome, c⟩ := result
    obtain ⟨o, collector, -, -, hview, haccepts, hchain, htoken, hcreate, rfl, -⟩ :=
      createCollectionForRoute_eq_ok.mp hx
    obtain ⟨hmem, hid, -, -⟩ := getOrderView_eq_ok hview
    obtain ⟨-, -, rfl⟩ | ⟨-, -, rfl⟩ | ⟨hkey, hactive, -, hins, -, rfl⟩ :=
      CollectorDb.createCollectionIdempotent_eq_ok hcreate
    · exact Or.inl db.setCollector_collector
    · exact Or.inl db.setCollector_collector
    · exact Or.inr ⟨_, o, ⟨hmem, hid, haccepts, hchain, htoken, rfl, hkey, hactive, hins⟩, rfl⟩
  · exact Or.inl rfl

/-- **What an action can do to the database.** -/
inductive LedgerChange (keccak256 : List UInt8 → BitVec 256) (config : CollectionServiceConfig)
    (s : LedgerSystem) (now : Timestamp) (a : LedgerAction) : LedgerDb → Prop
  | unchanged : LedgerChange keccak256 config s now a s.db
  | createOrder (command : CreateOrderCommand) (ha : a = .order (.createOrder command))
      (h : s.db.Creates command) : LedgerChange keccak256 config s now a (s.db.withOrder command)
  | payment (op : PaymentOp) (payment : PaymentDb) (ha : a = .order (.payment op))
      (h : runPaymentOp s.db.payment now op = .ok payment) :
      LedgerChange keccak256 config s now a (s.db.setPayment payment)
  | collection (route : CollectionRoute) (input : CreateCollectionInput) (collectionId : Uuid)
      (command : CreateCollectionCommand) (o : OrderRecord)
      (ha : (s.request? a).map (fun r => (r.1, r.2.1, r.2.2.1)) = some (route, input, collectionId))
      (h : Grants keccak256 config s.db now route input collectionId command o) :
      LedgerChange keccak256 config s now a (s.db.withCollection now command)
  | collector (call : CollectionCall) (collector : CollectorDb) (ha : a = .collector call)
      (hcall : call.isCollector = true) (h : s.db.collector.runCall now call = .ok collector) :
      LedgerChange keccak256 config s now a (s.db.setCollector collector)

/-- What an action leaves is one of these changes. -/
theorem ledgerChange_of_act {s s' : LedgerSystem} {now : Timestamp} {a : LedgerAction}
    (h : act keccak256 config s now a = some s') :
    LedgerChange keccak256 config s now a s'.db := by
  have hrequest : ∀ r, s.request? a = some r →
      s' = { r.2.2.2 with db := requested keccak256 config s.db now r.1 r.2.1 r.2.2.1 } →
      LedgerChange keccak256 config s now a s'.db := by
    rintro ⟨route, input, collectionId, s₁⟩ hr rfl
    rcases requested_cases keccak256 config s.db now route input collectionId with
      hsame | ⟨c, o, hg, heq⟩
    · show LedgerChange keccak256 config s now a
        (requested keccak256 config s.db now route input collectionId)
      rw [hsame]
      exact .unchanged
    · show LedgerChange keccak256 config s now a
        (requested keccak256 config s.db now route input collectionId)
      rw [heq]
      exact .collection route input collectionId c o (by rw [hr]; rfl) hg
  cases a with
  | order op =>
    simp only [act] at h
    split at h
    · rename_i db' hrun
      obtain rfl := Option.some.inj h
      cases op with
      | createOrder command =>
        obtain ⟨⟨outcome, db₁⟩, hcreate, rfl⟩ := Except.map_eq_ok.mp hrun
        obtain ⟨_, _, -, -, -, rfl⟩ | ⟨_, -, -, hc, rfl⟩ := createOrderIdempotent_eq_ok hcreate
        · exact .unchanged
        · exact .createOrder command rfl hc
      | payment op =>
        obtain ⟨payment, hop, rfl⟩ := Except.map_eq_ok.mp hrun
        exact .payment op payment rfl hop
    · obtain rfl := Option.some.inj h
      exact .unchanged
  | startPaidPass i batchLimit updatedAt =>
    simp only [act] at h
    split at h
    · split at h
      · obtain rfl := Option.some.inj h
        exact .unchanged
      · split at h <;> obtain rfl := Option.some.inj h <;> exact .unchanged
    · cases h
  | startProblemPass i =>
    simp only [act] at h
    split at h
    · split at h <;> obtain rfl := Option.some.inj h <;> exact .unchanged
    · cases h
  | collector call =>
    simp only [act] at h
    split at h
    · rename_i hcall
      split at h
      · rename_i collector hrun
        obtain rfl := Option.some.inj h
        exact .collector call collector rfl hcall hrun
      · obtain rfl := Option.some.inj h
        exact .unchanged
    · cases h
  | createCollection route input collectionId =>
    obtain rfl := Option.some.inj h
    exact hrequest _ rfl rfl
  | enqueuePaid i collectionId =>
    simp only [act] at h
    split at h
    · rename_i route input id s₁ hr
      exact hrequest _ hr (Option.some.inj h).symm
    · cases h
  | enqueueProblem i collectionId =>
    simp only [act] at h
    split at h
    · rename_i route input id s₁ hr
      exact hrequest _ hr (Option.some.inj h).symm
    · cases h

/-- **One step** makes one of the changes, and the clock does not go back. -/
theorem step_eq_some {s s' : LedgerSystem} {a : Timestamp × LedgerAction}
    (h : step keccak256 config s a = some s') :
    s.now ≤ s'.now ∧ s'.now = a.1 ∧ LedgerChange keccak256 config s s'.now a.2 s'.db := by
  unfold step at h
  split at h
  · rename_i hle
    obtain ⟨s₁, hact, rfl⟩ := Option.map_eq_some_iff.mp h
    have hchange := ledgerChange_of_act hact
    exact ⟨hle, rfl, hchange⟩
  · cases h

end LedgerSystem

namespace SmallLedger

/-- One token on one chain, swept to `0x7e`, with problem funds at `0x9f`. -/
def config : CollectionServiceConfig :=
  ⟨1, 4, 0x7e, 0x9f, by decide, by decide, by decide, by decide, by decide⟩

/-- A cursor the scanner has leased, and the two destinations. -/
def start : LedgerSystem where
  db :=
    { payment := ⟨[], [], [], [], [⟨1, 4, 0, 0, some "scanner", some 50⟩]⟩
      orderKeys := []
      collector := ⟨[], [], [], [], [], [(1, 4, 0x7e), (1, 4, 0x9f)], []⟩
      orders_eq := rfl }
  now := 0
  enqueuers := fun _ => .idle

theorem start_initial : start.Initial := ⟨⟨rfl, rfl, rfl⟩, ⟨rfl, rfl, by decide⟩, fun _ => rfl⟩

/-- The values of `keccak256` on the requests of a run, each given with its
hash. -/
def keccakOf (table : List (String × BitVec 256)) (bytes : List UInt8) : BitVec 256 :=
  ((table.find? (fun e => decide (e.1.toUTF8.data.toList = bytes))).map Prod.snd).getD 0

theorem keccakOf_cons_self (text : String) (hash : BitVec 256) (table : List (String × BitVec 256)) :
    keccakOf ((text, hash) :: table) text.toUTF8.data.toList = hash := by
  unfold keccakOf
  rw [List.find?_cons_of_pos (by simp)]
  rfl

theorem keccakOf_cons_of_ne {text : String} {hash : BitVec 256} {bytes : List UInt8}
    (h : text.toUTF8.data.toList ≠ bytes) (table : List (String × BitVec 256)) :
    keccakOf ((text, hash) :: table) bytes = keccakOf table bytes := by
  unfold keccakOf
  rw [List.find?_cons_of_neg (by simpa using h)]

/-- A signed transaction of order 1's child account, under a given identifier. -/
def signedTx (id : Uuid) (to_ : EvmAddress) : NewSignedOutboundTx :=
  ⟨id, 1, .collect, 3, to_, id.setWidth 256, 65000, 30, 2, id.setWidth 256, [0x02], none, none⟩

/-- An order of 100 is created and paid in time. -/
def paidOrder : List (Timestamp × LedgerAction) :=
  [(1, .order (.createOrder CreatedThenPaid.command)),
   (9, .order (.payment (.commitScannedBatch
    ⟨⟨1, 4⟩, "scanner", 0, 6, 0, [CreatedThenPaid.payment]⟩)))]

/-- Another 50 for the order come too late. -/
def latePayment : List (Timestamp × LedgerAction) :=
  [(15, .order (.payment (.claimScanRange "scanner" ⟨1, 4⟩ 50))),
   (16, .order (.payment (.commitScannedBatch ⟨⟨1, 4⟩, "scanner", 6, 8, 0,
    [{ LatePayment.latePayment with id := 10, txHash := 8, blockNumber := 7, amountRaw := 50 }]⟩)))]

/-- The hashes of the enqueuer's two requests for the order. -/
def keccak256 : List UInt8 → BitVec 256 :=
  keccakOf [(canonicalRequest (PaidCollectionCandidate.input ⟨1, 100⟩) config .treasury,
      0x960788806eec8bf46ddea173f2fc1c809624882cec08bcd5c7d54ab9c01e26cf),
    (canonicalRequest (ProblemFundsCollectionCandidate.input ⟨1, 50⟩) config .problemFunds,
      0x4b168dc02964d4a4cee14a8fcf80b46db99800c0d7e65cf9320756422e9950f3)]

/-- A pass of the enqueuer that asks for the order to be swept to the treasury. -/
def sweepRequested (now : Timestamp) (collectionId : Uuid) : List (Timestamp × LedgerAction) :=
  [(now, .startPaidPass 0 10 (fun _ => 0)), (now, .enqueuePaid 0 collectionId),
   (now, .startProblemPass 0)]

/-- A pass of the enqueuer that asks for its problem funds to be swept. -/
def problemSweepRequested (now : Timestamp) (collectionId : Uuid) :
    List (Timestamp × LedgerAction) :=
  [(now, .startPaidPass 0 10 (fun _ => 0)), (now, .startProblemPass 0),
   (now, .enqueueProblem 0 collectionId)]

/-- A collection is signed, sent and confirmed. -/
def swept (now : Timestamp) (collectionId txId : Uuid) (to_ : EvmAddress) (amount : RawAmount) :
    List (Timestamp × LedgerAction) :=
  [(now, .collector (.insertSignedCollectTx collectionId (signedTx txId to_) amount)),
   (now, .collector (.markBroadcast txId)),
   (now, .collector (.markConfirmed txId ⟨7, 77⟩))]

/-- A collection is signed and sent, and its transaction reverts. -/
def reverted (now : Timestamp) (collectionId txId : Uuid) (to_ : EvmAddress) (amount : RawAmount) :
    List (Timestamp × LedgerAction) :=
  [(now, .collector (.insertSignedCollectTx collectionId (signedTx txId to_) amount)),
   (now, .collector (.markBroadcast txId)),
   (now, .collector (.markFailed txId "reverted"))]

end SmallLedger
