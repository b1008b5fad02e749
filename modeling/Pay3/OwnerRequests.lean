import Pay3.CollectionRoutes
import Pay3.JwtVerification
import Pay3.Noninterference
import Pay3.OrderCreation
import Pay3.TokenAmounts

/-!
# What the API does for a principal

The handlers behind the token: each checks the scope of its request, reads the
path and the payload, calls a service, and makes a response of what it
answers, or an error with a status. An order is answered with its payment
diagnostics, which are read after it with calls of their own.

The handlers and the services are programs over the database (`Program`), one
call for each statement or transaction of the source, so that the requests of
others can come in between. What is not in the database is data of the request:
the head of the chain, the segment that is allocated and the address derived
for it, the identifiers drawn and the time. The UUID parser and the formatter of
timestamps are parameters.
-/

/-! ## Errors -/

/-- `ApiError`, less its identifier, which is drawn at random, and its details,
which are empty here. -/
structure ApiError where
  status : ℕ
  code : String
  message : String
  retryable : Bool
  deriving DecidableEq

namespace ApiError

/-- `ApiError::new`. -/
def new (status : ℕ) (code message : String) : ApiError :=
  ⟨status, code, message, decide (status ∈ [429, 503, 504, 502])⟩

/-- `bad_request`. -/
def badRequest (code message : String) : ApiError := new 400 code message

/-- `unauthorized`. -/
def unauthorized (message : String) : ApiError := new 401 "unauthorized" message

/-- `forbidden`. -/
def forbidden (message : String) : ApiError := new 403 "forbidden" message

/-- `conflict`. -/
def conflict (code message : String) : ApiError := new 409 code message

/-- `not_found`. -/
def notFound (message : String) : ApiError := new 404 "not_found" message

/-- `service_unavailable`. -/
def serviceUnavailable (code message : String) : ApiError := new 503 code message

/-- `internal`. -/
def internal (message : String) : ApiError := new 500 "internal_error" message

end ApiError

/-- The text of an `AuthError`. -/
def AuthError.text : AuthError → String
  | .missingBearerToken => "missing bearer token"
  | .invalidAuthorizationScheme => "invalid authorization scheme"
  | .malformedBearerToken => "malformed bearer token"
  | .missingKeyId => "missing jwt key id"
  | .unknownKeyId => "unknown jwt key id"
  | .unsupportedAlgorithm => "unsupported jwt algorithm"
  | .invalidKey => "invalid jwt key"
  | .invalidJwks => "invalid jwt jwks"
  | .duplicateKeyId kid => "duplicate jwt key id: " ++ kid
  | .invalidToken => "invalid token"
  | .tokenExpired => "token expired"
  | .tokenNotYetValid => "token not yet valid"
  | .invalidIssuer => "invalid issuer"
  | .invalidAudience => "invalid audience"
  | .missingClaim claim => "missing claim: " ++ claim
  | .invalidSubject => "invalid subject"
  | .invalidIssuedAt => "invalid issued-at"
  | .missingScope scope => "missing scope: " ++ scope
  | .insufficientScope scope => "insufficient scope: " ++ scope
  | .remoteJwksFetchFailed reason => "remote jwks fetch failed: " ++ reason

/-- `auth_error_to_api`. -/
def authErrorToApi (error : AuthError) : ApiError :=
  match error with
  | .missingScope _ | .insufficientScope _ => .forbidden error.text
  | .remoteJwksFetchFailed _ => .serviceUnavailable "jwks_unavailable" error.text
  | _ => .unauthorized error.text

/-- The text of an idempotency conflict. -/
def idempotencyConflictText (resource key : String) : String :=
  resource ++ " idempotency conflict for key " ++ key

/-- **`order_service_error_to_api`.** -/
def orderServiceErrorToApi : OrderServiceError → ApiError
  | .invalidArgument field message => .badRequest "invalid_order" (field ++ ": " ++ message)
  | .repository (.idempotencyConflict resource key _) =>
    .conflict "idempotency_conflict" (idempotencyConflictText resource key)
  | .repository (.notFound _ _) | .orderViewMissing _ => .notFound "order not found"
  | .chainHeadUnavailable message =>
    .serviceUnavailable "chain_head_unavailable" ("chain head unavailable: " ++ message)
  | _ => .internal "internal server error"

/-- A status as `{:?}` shows it. -/
def OrderStatus.debug : OrderStatus → String
  | .pending => "Pending"
  | .partial_ => "Partial"
  | .confirming => "Confirming"
  | .paid => "Paid"
  | .expired => "Expired"

/-- **`collection_service_error_to_api`.** -/
def collectionServiceErrorToApi : CollectionServiceError → ApiError
  | .invalidArgument field message =>
    .badRequest "invalid_collection" (field ++ ": " ++ message)
  | .orderNotFound _ | .repository (.notFound _ _) => .notFound "order not found"
  | .repository (.idempotencyConflict resource key _) =>
    .conflict "idempotency_conflict" (idempotencyConflictText resource key)
  | .orderNotCollectable id status => .conflict "collection_not_allowed"
    ("order " ++ id.hyphenated ++ " with status " ++ status.debug
      ++ " cannot be collected for this destination")
  | .orderStreamMismatch id => .conflict "collection_not_allowed"
    ("order " ++ id.hyphenated ++ " is for a different chain/token")
  | .zeroCollectionAmount id => .conflict "collection_not_allowed"
    ("collection amount resolved to zero for collection " ++ id.hyphenated)
  | .insufficientTokenBalance id _ _ => .conflict "collection_not_allowed"
    ("insufficient token balance for collection " ++ id.hyphenated)
  | _ => .internal "internal server error"

/-- The text of an `AmountParseError`. -/
def AmountParseError.text : AmountParseError → String
  | .empty => "amount is empty"
  | .negative => "amount must not be negative"
  | .invalidFormat => "amount has invalid decimal format"
  | .invalidDigits => "amount contains non-decimal digits"
  | .tooManyFractionalDigits actual decimals => "fractional precision " ++ toString actual
    ++ " exceeds token decimals " ++ toString decimals
  | .overflow => "amount overflows uint256"

/-- `json_rejection`. -/
def jsonRejection (text : String) : ApiError := .badRequest "invalid_json" text

/-! ## Reads -/

/-- `OrderView`, with the columns that are answered. -/
structure OrderView where
  order : OrderRecord
  externalId : String
  childAccount : ChildAccountRecord
  paymentWindow : PaymentWindowRecord
  deriving DecidableEq

/-- **`get_order_view` and `get_order_view_for_owner`**: the order joined with its
child account and its window. The external id stands in a table of its own
here. -/
def fetchOrderView (db : LedgerDb) (id : Uuid) (ownerSub : Option String) :
    Except RepositoryError (Option OrderView) :=
  match db.payment.orders.find? (fun o => decide (o.id = id)
      && ownerSub.all (fun owner => decide (o.ownerSub = owner))) with
  | none => .ok none
  | some o =>
    match db.orderKeys.find? (fun k => decide (k.orderId = o.id)),
      db.collector.childAccounts.find? (fun a => decide (a.id = o.childAccountId)),
      db.payment.windows.find? (fun w => decide (w.orderId = o.id)) with
    | some k, some a, some w => (rowToOrderRecord o).map (fun o => some ⟨o, k.externalId, a, w⟩)
    | _, _, _ => .ok none

/-- `OrderProblemPaymentRecord`. -/
structure OrderProblemPaymentRecord where
  txHash : TxHash
  amountRaw : RawAmount
  blockNumber : ℕ
  blockTime : Timestamp
  confirmations : ℕ
  matchStatus : PaymentMatchStatus
  chainStatus : PaymentChainStatus
  deriving DecidableEq

/-- `OrderProblemCollectionRecord`. -/
structure OrderProblemCollectionRecord where
  id : Uuid
  status : CollectionRecordStatus
  amountRaw : Option RawAmount
  outboundTxId : Option Uuid
  toAddress : EvmAddress
  updatedAt : Timestamp
  deriving DecidableEq

/-- `OrderManualAcceptanceRecord`, less its timestamps. -/
structure OrderManualAcceptanceRecord where
  acceptedProblemPaymentRaw : RawAmount
  acceptedBy : String
  reason : Option String
  deriving DecidableEq

/-- `OrderPaymentDiagnostics`. -/
structure OrderPaymentDiagnostics where
  problemPaymentCount : ℕ
  problemPaymentTotalRaw : RawAmount
  latePaymentCount : ℕ
  latePaymentTotalRaw : RawAmount
  outsideWindowPaymentCount : ℕ
  outsideWindowPaymentTotalRaw : RawAmount
  latestProblemPayment : Option OrderProblemPaymentRecord
  problemCollection : Option OrderProblemCollectionRecord
  manualAcceptance : Option OrderManualAcceptanceRecord
  deriving DecidableEq

/-- `OrderPaymentDiagnostics::default`. -/
def OrderPaymentDiagnostics.empty : OrderPaymentDiagnostics :=
  ⟨0, 0, 0, 0, 0, 0, none, none, none⟩

/-- Late or outside the window, and not orphaned. -/
def PaymentRecord.isLiveProblem (p : PaymentRecord) : Bool :=
  !decide (p.matchStatus = .onTime) && !decide (p.chainStatus = .orphaned)

/-- Late, and not orphaned. -/
def PaymentRecord.isLiveLate (p : PaymentRecord) : Bool :=
  decide (p.matchStatus = .late) && !decide (p.chainStatus = .orphaned)

/-- Outside the window, and not orphaned. -/
def PaymentRecord.isLiveOutsideWindow (p : PaymentRecord) : Bool :=
  decide (p.matchStatus = .outsideWindow) && !decide (p.chainStatus = .orphaned)

/-- The payments of an order. -/
def paymentsOf (db : LedgerDb) (id : Uuid) : List PaymentRecord :=
  db.payment.payments.filter (fun p => decide (p.orderId = id))

/-- `ORDER BY block_time DESC, block_number DESC, log_index DESC`. -/
def PaymentRecord.isLater (a b : PaymentRecord) : Bool :=
  decide (b.blockTime < a.blockTime) || (decide (a.blockTime = b.blockTime)
    && (decide (b.blockNumber < a.blockNumber) || (decide (a.blockNumber = b.blockNumber)
      && decide (b.logIndex ≤ a.logIndex))))

/-- The latest problem payment of an order. -/
def latestProblemPayment (db : LedgerDb) (id : Uuid) : Option OrderProblemPaymentRecord :=
  (firstBy PaymentRecord.isLater ((paymentsOf db id).filter PaymentRecord.isLiveProblem)).map
    (fun p => ⟨p.txHash, p.amountRaw, p.blockNumber, p.blockTime, p.confirmations, p.matchStatus,
      p.chainStatus⟩)

/-- The `CASE` of the statuses of a collection. -/
def CollectionRecordStatus.rank : CollectionRecordStatus → ℕ
  | .confirmed => 0
  | .confirming => 1
  | .transferring => 2
  | .queued => 3
  | .replacing => 4
  | _ => 5

/-- `ORDER BY` the rank, `updated_at DESC` and the identifier. -/
def CollectionRecord.isShownBefore (a b : CollectionRecord) : Bool :=
  decide (a.status.rank < b.status.rank) || (decide (a.status.rank = b.status.rank)
    && (decide (b.updatedAt < a.updatedAt) || (decide (a.updatedAt = b.updatedAt)
      && decide (a.id ≤ b.id))))

/-- The collection of an order's problem funds. -/
def problemCollection (db : LedgerDb) (id : Uuid) (problemFundsAddress : EvmAddress) :
    Option OrderProblemCollectionRecord :=
  (firstBy CollectionRecord.isShownBefore (db.collector.collections.filter (fun c =>
    decide (c.orderId = id) && decide (c.toAddress = problemFundsAddress)))).map
    (fun c => ⟨c.id, c.status, c.amountRaw, c.outboundTxId, c.toAddress, c.updatedAt⟩)

/-- What was accepted for an order. -/
def manualAcceptance (db : LedgerDb) (id : Uuid) : Option OrderManualAcceptanceRecord :=
  (db.payment.overrides.find? (fun ov => decide (ov.orderId = id))).map
    (fun ov => ⟨ov.acceptedProblemPaymentRaw, ov.acceptedBy, ov.reason⟩)

/-- A count and a sum over the payments of an order. -/
def countAndTotal (q : PaymentRecord → Bool) (payments : List PaymentRecord) : ℕ × ℕ :=
  ((payments.filter q).length, ((payments.filter q).map (fun p => p.amountRaw.toNat)).sum)

/-- The counts and totals of an order: all its problem payments, the late ones
and the ones outside the window. -/
def problemTotals (db : LedgerDb) (id : Uuid) : (ℕ × ℕ) × (ℕ × ℕ) × (ℕ × ℕ) :=
  (countAndTotal PaymentRecord.isLiveProblem (paymentsOf db id),
    countAndTotal PaymentRecord.isLiveLate (paymentsOf db id),
    countAndTotal PaymentRecord.isLiveOutsideWindow (paymentsOf db id))

/-! ## Programs over the database -/

/-- What a service or a handler does with the database. -/
abbrev DbProgram (ε α : Type) := ExceptT ε (Program LedgerDb) α

namespace DbProgram

variable {ε α : Type}

/-- A result that needs no call. -/
def compute (x : Except ε α) : DbProgram ε α := ExceptT.mk (pure x)

/-- A query that cannot fail. -/
def query (f : LedgerDb → α) : DbProgram ε α := ExceptT.mk (Except.ok <$> Program.read f)

/-- A query whose rows are converted. -/
def fetch (f : LedgerDb → Except ε α) : DbProgram ε α := ExceptT.mk (Program.read f)

/-- A transaction. -/
def transaction (f : LedgerDb → Except ε (α × LedgerDb)) : DbProgram ε α :=
  ExceptT.mk (Program.transaction f)

end DbProgram

/-! ## Services -/

namespace Api

open DbProgram

/-- `expect_order_view`. -/
def expectOrderView (id : Uuid) : DbProgram OrderServiceError OrderView := do
  let view ← (fetch (fetchOrderView · id none)).adapt .repository
  compute (orError view (.orderViewMissing id))

/-- `get_order_for_owner`. -/
def getOrderForOwner (id : Uuid) (ownerSub : String) :
    DbProgram OrderServiceError (Option OrderView) := do
  let ownerSub ← compute (normalizeOwnerSub ownerSub)
  (fetch (fetchOrderView · id (some ownerSub))).adapt .repository

/-- `get_order_by_external_id_for_owner`. -/
def getOrderByExternalIdForOwner (externalId ownerSub : String) :
    DbProgram OrderServiceError (Option OrderView) := do
  let ownerSub ← compute (normalizeOwnerSub ownerSub)
  match ← (fetch (fetchOrderByExternalIdTx · externalId ownerSub)).adapt .repository with
  | none => pure none
  | some (_, order) => do
    let view ← (fetch (fetchOrderView · order.id (some ownerSub))).adapt .repository
    some <$> compute (orError view (.orderViewMissing order.id))

/-- **`get_order_payment_diagnostics_for_owner`**: the order is looked up with its
owner, and the rest by its identifier. -/
def getOrderPaymentDiagnosticsForOwner (id : Uuid) (ownerSub : String)
    (problemFundsAddress : EvmAddress) :
    DbProgram RepositoryError (Option OrderPaymentDiagnostics) := do
  let orderExists ← query (fun db => db.payment.orders.any (fun o =>
    decide (o.id = id) && decide (o.ownerSub = ownerSub)))
  if orderExists then do
    let (problem, late, outsideWindow) ← query (problemTotals · id)
    let latestProblemPayment ← query (latestProblemPayment · id)
    let problemCollection ← query (problemCollection · id problemFundsAddress)
    let manualAcceptance ← query (manualAcceptance · id)
    let problemTotal ← compute (bigDecimalToRawAmount problem.2)
    let lateTotal ← compute (bigDecimalToRawAmount late.2)
    let outsideWindowTotal ← compute (bigDecimalToRawAmount outsideWindow.2)
    pure (some ⟨problem.1, problemTotal, late.1, lateTotal, outsideWindow.1, outsideWindowTotal,
      latestProblemPayment, problemCollection, manualAcceptance⟩)
  else pure none

/-- The transaction of `accept_problem_payment_for_owner`, with the view that is
read before it commits. -/
def acceptProblemPaymentTx (now : Timestamp) (id : Uuid) (ownerSub acceptedBy : String)
    (reason : Option String) (db : LedgerDb) :
    Except RepositoryError (Option OrderView × LedgerDb) := do
  let (row, payment) ← acceptProblemPaymentForOwner db.payment now id ownerSub acceptedBy reason
  match row with
  | none => pure (none, db)
  | some _ => do
    let db' := db.setPayment payment
    let view ← fetchOrderView db' id (some ownerSub)
    pure (view, db')

/-- `accept_problem_payment_for_owner`. -/
def acceptProblemPayment (now : Timestamp) (id : Uuid) (ownerSub acceptedBy : String)
    (reason : Option String) : DbProgram OrderServiceError (Option OrderView) := do
  let ownerSub ← compute (normalizeOwnerSub ownerSub)
  (transaction (acceptProblemPaymentTx now id ownerSub acceptedBy reason)).adapt .repository

/-- The transaction of `create_collection_idempotent`. -/
def createCollectionTx (now : Timestamp) (command : CreateCollectionCommand) (db : LedgerDb) :
    Except RepositoryError (CollectionRecord × LedgerDb) :=
  (db.collector.createCollectionIdempotent now command).map (fun x => (x.2, db.setCollector x.1))

/-- What a creation is answered from outside the database. -/
structure CreateOrderWorld where
  /-- The head of the chain, or why there is none. -/
  head : Except String ChainBlockRef
  /-- The segment that is allocated. -/
  allocated : Except RepositoryError AllocatedDerivation
  /-- The address for a key and a path. -/
  deriver : String → String → Except WalletError EvmAddress
  now : Timestamp
  ids : NewOrderIds

section Services

variable (keccak256 : List UInt8 → BitVec 256) (ryu : BitVec 64 → String)

/-- **`create_order_for_owner`.** -/
def createOrderForOwner (config : OrderServiceConfig) (ownerSub : String)
    (input : CreateOrderInput) (world : CreateOrderWorld) :
    DbProgram OrderServiceError (CreateOrderServiceOutcome × OrderView) := do
  let request ← compute (CreateRequest.ofCall config ownerSub input)
  match ← (fetch (fetchOrderByExternalIdTx · request.input.externalId request.ownerSub)).adapt
      .repository with
  | some (key, order) => do
    compute (ensure
      (decide (key.requestHash = canonicalOrderRequestHash keccak256 ryu request.input))
      (.repository (.idempotencyConflict "orders" request.input.externalId (some order.id))))
    let view ← expectOrderView order.id
    pure (.existing, view)
  | none => do
    let windowFromBlock ← compute (world.head.mapError .chainHeadUnavailable)
    let allocated ← compute (world.allocated.mapError .repository)
    let command ← compute (createOrderCommand keccak256 ryu world.deriver request windowFromBlock
      allocated world.now world.ids)
    let outcome ← (transaction (createOrderIdempotent · command)).adapt .repository
    match outcome with
    | .created order => do
      let view ← expectOrderView order.id
      pure (.created, view)
    | .existing order => do
      let view ← expectOrderView order.id
      pure (.existing, view)

/-- **`create_collection_for_route`**, less the audit event it appends. -/
def createCollectionProgram (config : CollectionServiceConfig) (route : CollectionRoute)
    (input : CreateCollectionInput) (newId : Uuid) (now : Timestamp) :
    DbProgram CollectionServiceError (CreateCollectionOutcome × CollectionRecord) := do
  let input ← compute (normalizeCreateCollectionInput input)
  let view ← (fetch (getOrderView · input.orderId input.principalSub)).adapt .repository
  let o ← compute (orError view (.orderNotFound input.orderId))
  compute (validateCollectableOrder o config route)
  let c ← (transaction (createCollectionTx now
    (createCollectionCommand keccak256 config route input newId o))).adapt .repository
  pure (if c.id = newId then .created else .existing, c)

end Services

/-- `get_collection_for_owner` of the repository. -/
def fetchCollectionForOwner (db : LedgerDb) (id : Uuid) (ownerSub : String) :
    Option CollectionRecord :=
  db.collector.collections.find? (fun c => decide (c.id = id) && decide (c.ownerSub = ownerSub))

/-- `get_collection_for_owner`. -/
def getCollectionForOwner (id : Uuid) (ownerSub : String) :
    DbProgram CollectionServiceError (Option CollectionRecord) := do
  let ownerSub := trimText ownerSub
  compute (ensure (decide (ownerSub ≠ "")) (.invalidArgument "owner_sub" "must not be empty"))
  query (fetchCollectionForOwner · id ownerSub)

/-! ## Responses -/

/-- `OrderPaymentDiagnosticState`. -/
inductive OrderPaymentDiagnosticState
  | awaitingPayment
  | noIssue
  | expiredNoPayment
  | problemPaymentObserved
  | problemPaymentConfirmed
  | problemFundsCollecting
  | problemFundsCollected
  | problemPaymentAccepted
  deriving DecidableEq

/-- What the collection of the problem funds says of the state, if it says
anything. -/
def problemCollectionState (c : OrderProblemCollectionRecord) :
    Option OrderPaymentDiagnosticState :=
  match c.status with
  | .confirmed => some .problemFundsCollected
  | .queued | .transferring | .confirming | .replacing => some .problemFundsCollecting
  | _ => none

/-- **`payment_diagnostic_state`.** -/
def paymentDiagnosticState (orderStatus : OrderStatus) (diagnostics : OrderPaymentDiagnostics) :
    OrderPaymentDiagnosticState :=
  if diagnostics.manualAcceptance.isSome then .problemPaymentAccepted
  else
    match diagnostics.problemCollection.bind problemCollectionState with
    | some state => state
    | none =>
      if 0 < diagnostics.problemPaymentCount then
        if diagnostics.latestProblemPayment.any (fun p => decide (p.chainStatus = .confirmed)) then
          .problemPaymentConfirmed
        else .problemPaymentObserved
      else
        match orderStatus with
        | .pending | .partial_ | .confirming => .awaitingPayment
        | .expired => .expiredNoPayment
        | .paid => .noIssue

/-- `OrderPaymentResponse`. -/
structure OrderPaymentResponse where
  chainId : ℕ
  tokenAddress : String
  tokenSymbol : String
  tokenDecimals : ℕ
  amount : String
  amountRaw : String
  paidAmountRaw : String
  receiveAddress : String
  childAccountId : Uuid
  derivationPath : String
  expiresAt : String
  monitorUntil : String
  deriving DecidableEq

/-- `OrderProblemPaymentResponse`. -/
structure OrderProblemPaymentResponse where
  txHash : String
  amountRaw : String
  blockNumber : ℕ
  blockTime : String
  confirmations : ℕ
  matchStatus : PaymentMatchStatus
  chainStatus : PaymentChainStatus
  deriving DecidableEq

/-- `OrderProblemCollectionResponse`. -/
structure OrderProblemCollectionResponse where
  id : Uuid
  status : CollectionRecordStatus
  amountRaw : Option String
  outboundTxId : Option Uuid
  toAddress : String
  updatedAt : String
  deriving DecidableEq

/-- `OrderManualAcceptanceResponse`, less its timestamps. -/
structure OrderManualAcceptanceResponse where
  acceptedProblemPaymentRaw : String
  acceptedBy : String
  reason : Option String
  deriving DecidableEq

/-- `OrderPaymentDiagnosticsResponse`. -/
structure OrderPaymentDiagnosticsResponse where
  state : OrderPaymentDiagnosticState
  problemPaymentCount : ℕ
  problemPaymentTotalRaw : String
  latePaymentCount : ℕ
  latePaymentTotalRaw : String
  outsideWindowPaymentCount : ℕ
  outsideWindowPaymentTotalRaw : String
  latestProblemPayment : Option OrderProblemPaymentResponse
  problemCollection : Option OrderProblemCollectionResponse
  manualAcceptance : Option OrderManualAcceptanceResponse
  deriving DecidableEq

/-- `OrderResponse`. -/
structure OrderResponse where
  id : Uuid
  externalId : String
  status : OrderStatus
  payment : OrderPaymentResponse
  diagnostics : OrderPaymentDiagnosticsResponse
  deriving DecidableEq

/-- `CollectionResponse`. -/
structure CollectionResponse where
  id : Uuid
  orderId : Uuid
  chainId : ℕ
  tokenAddress : String
  status : CollectionRecordStatus
  fromAddress : String
  toAddress : String
  amountRaw : Option String
  outboundTxId : Option Uuid
  attemptCount : ℕ
  error : Option String
  createdAt : String
  updatedAt : String
  deriving DecidableEq

/-- A response with its status. -/
inductive ApiResponse
  | order (status : ℕ) (body : OrderResponse)
  | collection (status : ℕ) (body : CollectionResponse)
  deriving DecidableEq

/-- `OrderResponseConfig`. -/
structure OrderResponseConfig where
  tokenDecimals : ℕ
  tokenSymbol : String
  problemFundsAddress : EvmAddress
  deriving DecidableEq

/-- A raw amount as text. -/
def rawText (amount : RawAmount) : String := toString amount.toNat

section Responses

variable (formatTimestamp : Timestamp → String)

/-- `problem_payment_response`. -/
def problemPaymentResponse (p : OrderProblemPaymentRecord) : OrderProblemPaymentResponse :=
  ⟨"0x" ++ String.ofList (hexDigits 64 p.txHash.toNat), rawText p.amountRaw, p.blockNumber,
    formatTimestamp p.blockTime, p.confirmations, p.matchStatus, p.chainStatus⟩

/-- `problem_collection_response`. -/
def problemCollectionResponse (c : OrderProblemCollectionRecord) :
    OrderProblemCollectionResponse :=
  ⟨c.id, c.status, c.amountRaw.map rawText, c.outboundTxId, c.toAddress.display,
    formatTimestamp c.updatedAt⟩

/-- `manual_acceptance_response`. -/
def manualAcceptanceResponse (a : OrderManualAcceptanceRecord) : OrderManualAcceptanceResponse :=
  ⟨rawText a.acceptedProblemPaymentRaw, a.acceptedBy, a.reason⟩

/-- **`order_response`.** -/
def orderResponse (view : OrderView) (config : OrderResponseConfig)
    (diagnostics : OrderPaymentDiagnostics) : OrderResponse where
  id := view.order.id
  externalId := view.externalId
  status := view.order.status
  payment := {
    chainId := view.order.chainId
    tokenAddress := view.order.tokenAddress.display
    tokenSymbol := config.tokenSymbol
    tokenDecimals := config.tokenDecimals
    amount := TokenAmount.toDecimalString ⟨view.order.expectedAmountRaw, config.tokenDecimals⟩
    amountRaw := rawText view.order.expectedAmountRaw
    paidAmountRaw := toString view.order.paidAmountRaw
    receiveAddress := view.order.receiveAddress.display
    childAccountId := view.order.childAccountId
    derivationPath := view.childAccount.derivationPath
    expiresAt := formatTimestamp view.order.expiresAt
    monitorUntil := formatTimestamp view.order.monitorUntil }
  diagnostics := {
    state := paymentDiagnosticState view.order.status diagnostics
    problemPaymentCount := diagnostics.problemPaymentCount
    problemPaymentTotalRaw := rawText diagnostics.problemPaymentTotalRaw
    latePaymentCount := diagnostics.latePaymentCount
    latePaymentTotalRaw := rawText diagnostics.latePaymentTotalRaw
    outsideWindowPaymentCount := diagnostics.outsideWindowPaymentCount
    outsideWindowPaymentTotalRaw := rawText diagnostics.outsideWindowPaymentTotalRaw
    latestProblemPayment :=
      diagnostics.latestProblemPayment.map (problemPaymentResponse formatTimestamp)
    problemCollection :=
      diagnostics.problemCollection.map (problemCollectionResponse formatTimestamp)
    manualAcceptance := diagnostics.manualAcceptance.map manualAcceptanceResponse }

/-- `collection_response`. -/
def collectionResponse (c : CollectionRecord) : CollectionResponse :=
  ⟨c.id, c.orderId, c.chainId, c.tokenAddress.display, c.status, c.fromAddress.display,
    c.toAddress.display, c.amountRaw.map rawText, c.outboundTxId, c.attemptCount, c.error,
    formatTimestamp c.createdAt, formatTimestamp c.updatedAt⟩

end Responses

/-! ## Requests -/

/-- `CreateOrderRequest`. -/
structure CreateOrderRequest where
  externalId : String
  amount : String
  ttlSeconds : ℕ
  metadata : Option JsonValue

/-- `CreateCollectionRequest`. -/
structure CreateCollectionRequest where
  orderId : String
  amount : String
  idempotencyKey : String

/-- **A call of the API**, with its payload, or why that was rejected, and with
what it is answered from outside the database. -/
inductive ApiCall
  | createOrder (payload : Except String CreateOrderRequest) (world : CreateOrderWorld)
  | getOrder (id : String)
  | getOrderByExternalId (externalId : String)
  | acceptProblemPayment (id : String) (payload : Except String (Option String)) (now : Timestamp)
  | createCollection (payload : Except String CreateCollectionRequest) (newId : Uuid)
      (now : Timestamp)
  | getCollection (id : String)

/-- A call, and the principal of its token. -/
structure ApiRequest where
  principal : Principal
  call : ApiCall

/-- What the token services of the API are configured with. -/
structure ApiConfig where
  orders : OrderServiceConfig
  response : OrderResponseConfig
  collections : CollectionServiceConfig

/-- `require_scope`, once the token is verified. -/
def requireScope (principal : Principal) (scope : String) : DbProgram ApiError Unit :=
  compute ((principal.scopes.require scope).mapError authErrorToApi)

/-- `parse_collection_amount`. -/
def parseCollectionAmount (value : String) : Except ApiError CollectionAmount :=
  if eqIgnoreAsciiCase (trimText value) "max" then .ok .max
  else .error (.badRequest "invalid_collection_amount"
    "collection amount must be \"max\" for MVP")

/-- The metadata of a request: an object, or nothing. -/
def requestMetadata : Option JsonValue → Except ApiError JsonValue
  | some (.object fields) => .ok (.object fields)
  | some .null | none => .ok (.object [])
  | some _ => .error (.badRequest "invalid_metadata"
    "metadata must be a JSON object when provided")

section Handlers

variable (keccak256 : List UInt8 → BitVec 256) (ryu : BitVec 64 → String)
  (parseUuid : String → Option Uuid) (formatTimestamp : Timestamp → String) (config : ApiConfig)

/-- `parse_uuid`. -/
def parseApiUuid (value code message : String) : DbProgram ApiError Uuid :=
  compute (orError (parseUuid value) (.badRequest code message))

/-- `parse_order_id`. -/
def parseOrderId (value : String) : DbProgram ApiError Uuid :=
  parseApiUuid parseUuid value "invalid_order_id" "invalid order id"

/-- `parse_collection_id`. -/
def parseCollectionId (value : String) : DbProgram ApiError Uuid :=
  parseApiUuid parseUuid value "invalid_collection_id" "invalid collection id"

/-- `order_payment_diagnostics`. -/
def orderPaymentDiagnostics (ownerSub : String) (orderId : Uuid) :
    DbProgram ApiError OrderPaymentDiagnostics := do
  let diagnostics ← (getOrderPaymentDiagnosticsForOwner orderId ownerSub
    config.response.problemFundsAddress).adapt (fun e => orderServiceErrorToApi (.repository e))
  pure (diagnostics.getD .empty)

/-- The response to a request for an order: its view, with the diagnostics that
are read after it. -/
def answerOrder (status : ℕ) (ownerSub : String) (view : OrderView) :
    DbProgram ApiError ApiResponse := do
  let diagnostics ← orderPaymentDiagnostics config ownerSub view.order.id
  pure (.order status (orderResponse formatTimestamp view config.response diagnostics))

/-- The response for an order that may not be there. -/
def answerFound (ownerSub : String) (view : Option OrderView) :
    DbProgram ApiError ApiResponse := do
  let view ← compute (orError view (.notFound "order not found"))
  answerOrder formatTimestamp config 200 ownerSub view

/-- **`create_order`.** -/
def createOrder (principal : Principal) (payload : Except String CreateOrderRequest)
    (world : CreateOrderWorld) : DbProgram ApiError ApiResponse := do
  requireScope principal "orders:create"
  let payload ← compute (payload.mapError jsonRejection)
  let amount ← compute ((TokenAmount.parse payload.amount config.response.tokenDecimals).mapError
    (fun e => .badRequest "invalid_amount" e.text))
  let metadata ← compute (requestMetadata payload.metadata)
  let (outcome, view) ← (createOrderForOwner keccak256 ryu config.orders principal.subject
    ⟨payload.externalId, amount.raw, payload.ttlSeconds, metadata⟩ world).adapt
    orderServiceErrorToApi
  answerOrder formatTimestamp config (match outcome with | .created => 201 | .existing => 200)
    principal.subject view

/-- **`get_order`.** -/
def getOrder (principal : Principal) (id : String) : DbProgram ApiError ApiResponse := do
  requireScope principal "orders:read"
  let id ← parseOrderId parseUuid id
  let view ← (getOrderForOwner id principal.subject).adapt orderServiceErrorToApi
  answerFound formatTimestamp config principal.subject view

/-- **`get_order_by_external_id`.** -/
def getOrderByExternalId (principal : Principal) (externalId : String) :
    DbProgram ApiError ApiResponse := do
  requireScope principal "orders:read"
  let view ← (getOrderByExternalIdForOwner externalId principal.subject).adapt
    orderServiceErrorToApi
  answerFound formatTimestamp config principal.subject view

/-- **`accept_problem_payment`.** -/
def acceptProblemPaymentHandler (principal : Principal) (id : String)
    (payload : Except String (Option String)) (now : Timestamp) :
    DbProgram ApiError ApiResponse := do
  requireScope principal "orders:verify"
  let id ← parseOrderId parseUuid id
  let reason ← compute (payload.mapError jsonRejection)
  let view ← (acceptProblemPayment now id principal.subject principal.subject reason).adapt
    orderServiceErrorToApi
  answerFound formatTimestamp config principal.subject view

/-- **`create_collection`.** -/
def createCollectionHandler (principal : Principal)
    (payload : Except String CreateCollectionRequest) (newId : Uuid) (now : Timestamp) :
    DbProgram ApiError ApiResponse := do
  requireScope principal "collections:create"
  let payload ← compute (payload.mapError jsonRejection)
  let orderId ← parseOrderId parseUuid payload.orderId
  let amount ← compute (parseCollectionAmount payload.amount)
  let (outcome, c) ← (createCollectionProgram keccak256 config.collections .treasury
    ⟨orderId, amount, payload.idempotencyKey, some principal.subject⟩ newId now).adapt
    collectionServiceErrorToApi
  pure (.collection (match outcome with | .created => 201 | .existing => 200)
    (collectionResponse formatTimestamp c))

/-- **`get_collection`.** -/
def getCollection (principal : Principal) (id : String) : DbProgram ApiError ApiResponse := do
  requireScope principal "collections:read"
  let id ← parseCollectionId parseUuid id
  let c ← (getCollectionForOwner id principal.subject).adapt collectionServiceErrorToApi
  let c ← compute (orError c (.notFound "collection not found"))
  pure (.collection 200 (collectionResponse formatTimestamp c))

/-- **The handler of a request.** -/
def handleRequest (request : ApiRequest) : DbProgram ApiError ApiResponse :=
  match request.call with
  | .createOrder payload world =>
    createOrder keccak256 ryu formatTimestamp config request.principal payload world
  | .getOrder id => getOrder parseUuid formatTimestamp config request.principal id
  | .getOrderByExternalId externalId =>
    getOrderByExternalId formatTimestamp config request.principal externalId
  | .acceptProblemPayment id payload now =>
    acceptProblemPaymentHandler parseUuid formatTimestamp config request.principal id payload now
  | .createCollection payload newId now =>
    createCollectionHandler keccak256 parseUuid formatTimestamp config request.principal payload
      newId now
  | .getCollection id => getCollection parseUuid formatTimestamp request.principal id

end Handlers

end Api
