import Pay3.CollectionService
import Pay3.Json
import Pay3.OrderRepository

/-!
# Asking for a collection

`create_collection` and `create_problem_funds_collection` sweep an order's
child account to the treasury or to the address for problem funds. Both go
through `create_collection_for_route`: the request is normalised, the order is
read and its status checked against the route, and only then is the
idempotency key looked up, by `create_collection_idempotent`.

So the reply to a request depends on more than its key. The order has to be in
a status the route accepts at the time of the call, and a request that found
another collection of the child account still active was answered with that
one, which is stored under the key it was created with.

The request hash is `keccak256` of the canonical request in JSON; the hash
function is a parameter.
-/

/-- `CollectionServiceConfig`, with what its validation makes sure of. The
fees and the strategy play no part in the creation of a collection. -/
structure CollectionServiceConfig where
  chainId : ℕ
  tokenAddress : EvmAddress
  treasuryAddress : EvmAddress
  problemFundsAddress : EvmAddress
  chainId_pos : 0 < chainId
  token_ne_zero : tokenAddress ≠ 0
  treasury_ne_zero : treasuryAddress ≠ 0
  problemFunds_ne_zero : problemFundsAddress ≠ 0
  problemFunds_ne_treasury : problemFundsAddress ≠ treasuryAddress

/-- `CollectionRoute`. -/
inductive CollectionRoute
  | treasury | problemFunds
  deriving DecidableEq, Repr

namespace CollectionRoute

/-- `to_address`. -/
def toAddress (config : CollectionServiceConfig) : CollectionRoute → EvmAddress
  | .treasury => config.treasuryAddress
  | .problemFunds => config.problemFundsAddress

/-- `order_requirement`. -/
def orderRequirement : CollectionRoute → CollectionOrderRequirement
  | .treasury => .paid
  | .problemFunds => .problemFunds

/-- `canonical_destination`. -/
def canonicalDestination : CollectionRoute → String
  | .treasury => "treasury"
  | .problemFunds => "problem_funds"

/-- **The statuses a route accepts.** -/
def accepts : CollectionRoute → OrderStatus → Bool
  | .treasury, status => decide (status = .paid)
  | .problemFunds, status => decide (status = .expired) || decide (status = .paid)

end CollectionRoute

/-- `CollectionAmount`. -/
inductive CollectionAmount
  | max
  | exact (amount : RawAmount)
  deriving DecidableEq

namespace CollectionAmount

/-- `validate`. -/
def validate : CollectionAmount → Except CollectionServiceError Unit
  | .max => .ok ()
  | .exact amount =>
    ensure (decide (amount ≠ 0)) (.invalidArgument "amount_raw" "must be greater than zero")

/-- `as_optional_raw`. -/
def asOptionalRaw : CollectionAmount → Option RawAmount
  | .max => none
  | .exact amount => some amount

/-- `canonical_value`. -/
def canonicalValue : CollectionAmount → String
  | .max => "max"
  | .exact amount => toString amount.toNat

end CollectionAmount

/-- `CreateCollectionInput`; of the audit context only the principal is read. -/
structure CreateCollectionInput where
  orderId : Uuid
  amount : CollectionAmount
  idempotencyKey : String
  principalSub : Option String
  deriving DecidableEq

/-- `CreateCollectionOutcome`. -/
inductive CreateCollectionOutcome
  | created | existing
  deriving DecidableEq, Repr

/-- **`normalize_create_collection_input`**: the key is trimmed. -/
def normalizeCreateCollectionInput (input : CreateCollectionInput) :
    Except CollectionServiceError CreateCollectionInput := do
  input.amount.validate
  let idempotencyKey := trimText input.idempotencyKey
  ensure (decide (idempotencyKey ≠ "")) (.invalidArgument "idempotency_key" "must not be empty")
  pure { input with idempotencyKey := idempotencyKey }

/-- `get_order_view` and `get_order_view_for_owner`: the order joined with its
child account and its window. -/
def getOrderView (db : LedgerDb) (id : Uuid) (ownerSub : Option String) :
    Except RepositoryError (Option OrderRecord) :=
  match db.payment.orders.find? (fun o => decide (o.id = id)
      && ownerSub.all (fun owner => decide (o.ownerSub = owner))
      && db.collector.childAccounts.any (fun a => decide (a.id = o.childAccountId))
      && db.payment.windows.any (fun w => decide (w.orderId = o.id))) with
  | none => .ok none
  | some o => (rowToOrderRecord o).map some

/-- **`validate_collectable_order`.** -/
def validateCollectableOrder (o : OrderRecord) (config : CollectionServiceConfig)
    (route : CollectionRoute) : Except CollectionServiceError Unit := do
  ensure (route.accepts o.status) (.orderNotCollectable o.id o.status)
  ensure (decide (o.chainId = config.chainId) && decide (o.tokenAddress = config.tokenAddress))
    (.orderStreamMismatch o.id)

/-! ## The request hash -/

/-- The canonical request, in the order of its fields. -/
def canonicalRequest (input : CreateCollectionInput) (config : CollectionServiceConfig)
    (route : CollectionRoute) : String :=
  let fields : List (String × String) :=
    [("idempotency_key", jsonString input.idempotencyKey),
     ("order_id", jsonString input.orderId.hyphenated),
     ("amount", jsonString input.amount.canonicalValue),
     ("chain_id", toString config.chainId),
     ("token_address", jsonString (EvmAddress.display config.tokenAddress)),
     ("destination", jsonString route.canonicalDestination),
     ("to_address", jsonString (EvmAddress.display (route.toAddress config)))]
  "\x7b" ++ ",".intercalate (fields.map (fun f => jsonString f.1 ++ ":" ++ f.2)) ++ "\x7d"

section Hash

variable (keccak256 : List UInt8 → BitVec 256)

/-- **`canonical_collection_request_hash`.** -/
def canonicalCollectionRequestHash (input : CreateCollectionInput)
    (config : CollectionServiceConfig) (route : CollectionRoute) : String :=
  let hash := keccak256 (canonicalRequest input config route).toUTF8.data.toList
  "0x" ++ String.ofList (hexDigits 64 hash.toNat)

/-- The command a request comes to, for the order it is about. -/
def createCollectionCommand (config : CollectionServiceConfig) (route : CollectionRoute)
    (input : CreateCollectionInput) (collectionId : Uuid) (o : OrderRecord) :
    CreateCollectionCommand where
  collectionId := collectionId
  ownerSub := o.ownerSub
  orderId := o.id
  idempotencyKey := input.idempotencyKey
  requestHash := canonicalCollectionRequestHash keccak256 input config route
  childAccountId := o.childAccountId
  chainId := config.chainId
  tokenAddress := config.tokenAddress
  fromAddress := o.receiveAddress
  toAddress := route.toAddress config
  amountRaw := input.amount.asOptionalRaw
  orderRequirement := route.orderRequirement

/-- **`create_collection_for_route`**, less the audit event it appends. -/
def createCollectionForRoute (config : CollectionServiceConfig) (db : LedgerDb) (now : Timestamp)
    (route : CollectionRoute) (input : CreateCollectionInput) (collectionId : Uuid) :
    Except CollectionServiceError (LedgerDb × CreateCollectionOutcome × CollectionRecord) := do
  let input ← normalizeCreateCollectionInput input
  let view ← (getOrderView db input.orderId input.principalSub).mapError .repository
  let o ← orError view (.orderNotFound input.orderId)
  validateCollectableOrder o config route
  let (collector, c) ← (db.collector.createCollectionIdempotent now
    (createCollectionCommand keccak256 config route input collectionId o)).mapError .repository
  let outcome := if c.id = collectionId then .created else .existing
  pure (db.setCollector collector, outcome, c)

/-- `create_collection`. -/
def createCollection (config : CollectionServiceConfig) (db : LedgerDb) (now : Timestamp)
    (input : CreateCollectionInput) (collectionId : Uuid) :
    Except CollectionServiceError (LedgerDb × CreateCollectionOutcome × CollectionRecord) :=
  createCollectionForRoute keccak256 config db now .treasury input collectionId

/-- `create_problem_funds_collection`. -/
def createProblemFundsCollection (config : CollectionServiceConfig) (db : LedgerDb)
    (now : Timestamp) (input : CreateCollectionInput) (collectionId : Uuid) :
    Except CollectionServiceError (LedgerDb × CreateCollectionOutcome × CollectionRecord) :=
  createCollectionForRoute keccak256 config db now .problemFunds input collectionId

end Hash
