import Pay3.CollectionRoutes
import Pay3.ScannerSystem
import Pay3.WalletCursor

/-!
# What a request for an order comes to

A request names an external id, an amount, a time to live and some metadata. It
is put into a normal form, with the external id trimmed and the metadata a JSON
object with its keys in order, and hashed; the hash decides later whether a
second request under the same external id is the same request.

The rest of this module is what `create_order_for_owner` computes between its
calls to others: the address request it makes of the wallet, and the command it
hands to the repository. The calls themselves, and what can happen between
them, are in the next module.
-/

/-! ## Metadata -/

/-- A field of a map that is kept in the order of its keys. -/
def insertKey (field : String × JsonValue) : List (String × JsonValue) → List (String × JsonValue)
  | [] => [field]
  | f :: fields =>
    if field.1 < f.1 then field :: f :: fields
    else if f.1 = field.1 then field :: fields
    else f :: insertKey field fields

mutual

/-- **`sort_json_value`.** -/
def sortJsonValue : JsonValue → JsonValue
  | .object fields => .object (sortJsonFields fields [])
  | .array values => .array (sortJsonValues values)
  | value => value

/-- The values of an array, each with its keys in order. -/
def sortJsonValues : List JsonValue → List JsonValue
  | [] => []
  | value :: values => sortJsonValue value :: sortJsonValues values

/-- A field, with the keys of its value in order. -/
def sortJsonField : String × JsonValue → String × JsonValue
  | (key, value) => (key, sortJsonValue value)

/-- The fields of an object, collected into a sorted map. -/
def sortJsonFields : List (String × JsonValue) → List (String × JsonValue) →
    List (String × JsonValue)
  | [], sorted => sorted
  | field :: fields, sorted => sortJsonFields fields (insertKey (sortJsonField field) sorted)

end

/-! ## Requests -/

/-- `OrderServiceConfig`; the wallet cursor of every service is the default
one. -/
structure OrderServiceConfig where
  chainId : ℕ
  tokenAddress : EvmAddress
  latePaymentMonitorSeconds : ℕ
  deriving DecidableEq

/-- `DEFAULT_WALLET_CURSOR_ID`. -/
def defaultWalletCursorId : String := "default"

/-- `CreateOrderInput`. -/
structure CreateOrderInput where
  externalId : String
  expectedAmountRaw : RawAmount
  ttlSeconds : ℕ
  metadata : JsonValue

/-- `WalletError`. -/
inductive WalletError
  | emptySignerKeyRef
  | invalidDerivationVersion (version : ℕ)
  | invalidDerivationPath (path : String)
  | unknownSignerKeyRef (keyRef : String)
  | remoteSignerCallFailed (message : String)
  deriving DecidableEq

/-- `OrderServiceError`. -/
inductive OrderServiceError
  | invalidArgument (field message : String)
  | chainHeadUnavailable (message : String)
  | orderViewMissing (orderId : Uuid)
  | timeOverflow (field : String)
  | integerOutOfRange (field : String)
  | repository (error : RepositoryError)
  | wallet (error : WalletError)
  deriving DecidableEq

/-- `NormalizedCreateOrderInput`. -/
structure NormalizedCreateOrderInput where
  externalId : String
  expectedAmountRaw : RawAmount
  ttlSeconds : ℕ
  metadata : JsonValue

/-- `canonical_metadata`. -/
def canonicalMetadata : JsonValue → Except OrderServiceError JsonValue
  | .null => .ok (.object [])
  | .object fields => .ok (sortJsonValue (.object fields))
  | _ => .error (.invalidArgument "metadata" "must be a JSON object when provided")

/-- **`normalize_create_order_input`.** -/
def normalizeCreateOrderInput (input : CreateOrderInput) :
    Except OrderServiceError NormalizedCreateOrderInput := do
  let externalId := trimText input.externalId
  ensure (decide (externalId ≠ "")) (.invalidArgument "external_id" "must not be empty")
  ensure (decide (input.expectedAmountRaw ≠ 0))
    (.invalidArgument "expected_amount_raw" "must be greater than zero")
  ensure (decide (input.ttlSeconds ≠ 0))
    (.invalidArgument "ttl_seconds" "must be greater than zero")
  let metadata ← canonicalMetadata input.metadata
  return ⟨externalId, input.expectedAmountRaw, input.ttlSeconds, metadata⟩

/-- `normalize_owner_sub`. -/
def normalizeOwnerSub (ownerSub : String) : Except OrderServiceError String := do
  let ownerSub := trimText ownerSub
  ensure (decide (ownerSub ≠ "")) (.invalidArgument "owner_sub" "must not be empty")
  return ownerSub

/-- **A request as a service works on it**: the service's own configuration, the
owner and the input, both in normal form. -/
structure CreateRequest where
  config : OrderServiceConfig
  ownerSub : String
  input : NormalizedCreateOrderInput

/-- The request a caller makes of a service. -/
def CreateRequest.ofCall (config : OrderServiceConfig) (ownerSub : String)
    (input : CreateOrderInput) : Except OrderServiceError CreateRequest := do
  let ownerSub ← normalizeOwnerSub ownerSub
  let input ← normalizeCreateOrderInput input
  return ⟨config, ownerSub, input⟩

section Hash

variable (keccak256 : List UInt8 → BitVec 256) (ryu : BitVec 64 → String)

/-- The text the hash of a request is taken of. -/
def canonicalOrderRequest (input : NormalizedCreateOrderInput) : String :=
  let fields : List (String × String) :=
    [("external_id", jsonString input.externalId),
     ("amount_raw", jsonString (toString input.expectedAmountRaw.toNat)),
     ("ttl_seconds", toString input.ttlSeconds),
     ("metadata", input.metadata.text ryu)]
  "\x7b" ++ ",".intercalate (fields.map (fun f => jsonString f.1 ++ ":" ++ f.2)) ++ "\x7d"

/-- **`canonical_order_request_hash`.** Neither the service nor its token is part
of what is hashed. -/
def canonicalOrderRequestHash (input : NormalizedCreateOrderInput) : String :=
  "0x" ++ String.ofList (hexDigits 64
    (keccak256 (canonicalOrderRequest ryu input).toUTF8.data.toList).toNat)

end Hash

/-! ## The address -/

/-- `DeriveAddressRequest`. -/
structure DeriveAddressRequest where
  signerKeyRef : String
  derivationVersion : ℕ
  segment : DerivationSegment
  deriving DecidableEq

/-- `DeriveAddressRequest::new`. -/
def DeriveAddressRequest.new (signerKeyRef : String) (derivationVersion : ℕ)
    (segment : DerivationSegment) : Except WalletError DeriveAddressRequest := do
  ensure (decide (derivationVersion ≠ 0)) (.invalidDerivationVersion derivationVersion)
  let signerKeyRef := trimText signerKeyRef
  ensure (decide (signerKeyRef ≠ "")) .emptySignerKeyRef
  return ⟨signerKeyRef, derivationVersion, segment⟩

/-- `DerivedChildAddress`. -/
structure DerivedChildAddress where
  signerKeyRef : String
  derivationVersion : ℕ
  segment : DerivationSegment
  derivationPath : String
  address : EvmAddress
  deriving DecidableEq

/-- **`derive_child_address`**, with what the deriver answers for a key and a
path. -/
def deriveChildAddress (deriver : String → String → Except WalletError EvmAddress)
    (request : DeriveAddressRequest) : Except WalletError DerivedChildAddress := do
  let address ← deriver request.signerKeyRef request.segment.derivationPath
  return ⟨request.signerKeyRef, request.derivationVersion, request.segment,
    request.segment.derivationPath, address⟩

/-- **`derive_address`** of the order service. -/
def deriveAddress (deriver : String → String → Except WalletError EvmAddress)
    (allocated : AllocatedDerivation) : Except OrderServiceError DerivedChildAddress := do
  let request ← (DeriveAddressRequest.new allocated.signerKeyRef allocated.derivationVersion
    allocated.segment).mapError .wallet
  let derived ← (deriveChildAddress deriver request).mapError .wallet
  ensure (decide (derived.derivationPath = allocated.derivationPath))
    (.invalidArgument "derivation_path" ("allocated path " ++ allocated.derivationPath
      ++ " did not match wallet path " ++ derived.derivationPath))
  return derived

/-- **A derived address is of the key and the segment that were asked for**, at the
path of the segment. -/
structure DerivedChildAddress.IsAt (signerKeyRef : String) (segment : DerivationSegment)
    (derived : DerivedChildAddress) : Prop where
  signerKeyRef : derived.signerKeyRef = trimText signerKeyRef
  derivationPath : derived.derivationPath = segment.derivationPath
  segment : derived.segment = segment

theorem deriveChildAddress_eq_ok {deriver : String → String → Except WalletError EvmAddress}
    {signerKeyRef : String} {derivationVersion : ℕ} {segment : DerivationSegment}
    {request : DeriveAddressRequest} {derived : DerivedChildAddress}
    (hrequest : DeriveAddressRequest.new signerKeyRef derivationVersion segment = .ok request)
    (hderived : deriveChildAddress deriver request = .ok derived) :
    derived.IsAt signerKeyRef segment := by
  unfold DeriveAddressRequest.new at hrequest
  obtain ⟨-, hrequest⟩ := ensure_bind_eq_ok.mp hrequest
  obtain ⟨-, hrequest⟩ := ensure_bind_eq_ok.mp hrequest
  obtain rfl := Except.ok.inj hrequest
  unfold deriveChildAddress at hderived
  obtain ⟨address, -, hderived⟩ := Except.bind_eq_ok.mp hderived
  rw [← Except.ok.inj hderived]
  exact ⟨rfl, rfl, rfl⟩

/-- The address is of the key and the segment that were allocated. -/
theorem deriveAddress_eq_ok {deriver : String → String → Except WalletError EvmAddress}
    {allocated : AllocatedDerivation} {derived : DerivedChildAddress}
    (h : deriveAddress deriver allocated = .ok derived) :
    derived.IsAt allocated.signerKeyRef allocated.segment := by
  unfold deriveAddress at h
  obtain ⟨request, hrequest, h⟩ := Except.bind_eq_ok.mp h
  obtain ⟨derived', hderived, h⟩ := Except.bind_eq_ok.mp h
  obtain ⟨-, h⟩ := ensure_bind_eq_ok.mp h
  obtain rfl := Except.ok.inj h
  exact deriveChildAddress_eq_ok (Except.mapError_eq_ok.mp hrequest)
    (Except.mapError_eq_ok.mp hderived)

/-! ## The command -/

/-- `duration_from_secs`. -/
def durationFromSecs (value : ℕ) (field : String) : Except OrderServiceError Timestamp :=
  if value ≤ i64Max then .ok (seconds value) else .error (.integerOutOfRange field)

/-- `checked_add`. -/
def checkedAddTime (time duration : Timestamp) (field : String) :
    Except OrderServiceError Timestamp :=
  if time + duration ≤ maxTimestamp then .ok (time + duration) else .error (.timeOverflow field)

/-- The identifiers a creation draws. -/
structure NewOrderIds where
  orderId : Uuid
  childAccountId : Uuid
  paymentWindowId : Uuid
  deriving DecidableEq

/-- **The command of a request**: everything between the allocation of its
segment and the call of `create_order_idempotent`. -/
def createOrderCommand (keccak256 : List UInt8 → BitVec 256) (ryu : BitVec 64 → String)
    (deriver : String → String → Except WalletError EvmAddress) (request : CreateRequest)
    (windowFromBlock : ChainBlockRef) (allocated : AllocatedDerivation) (now : Timestamp)
    (ids : NewOrderIds) : Except OrderServiceError CreateOrderCommand := do
  let derived ← deriveAddress deriver allocated
  let ttl ← durationFromSecs request.input.ttlSeconds "ttl_seconds"
  let lateMonitor ← durationFromSecs request.config.latePaymentMonitorSeconds
    "late_payment_monitor_seconds"
  let expiresAt ← checkedAddTime now ttl "expires_at"
  let monitorUntil ← checkedAddTime expiresAt lateMonitor "monitor_until"
  return {
    orderId := ids.orderId
    ownerSub := request.ownerSub
    externalId := request.input.externalId
    requestHash := canonicalOrderRequestHash keccak256 ryu request.input
    childAccount := {
      id := ids.childAccountId
      signerKeyRef := derived.signerKeyRef
      derivationVersion := derived.derivationVersion
      derivationSegment := derived.segment
      derivationPath := derived.derivationPath
      address := derived.address }
    chainId := request.config.chainId
    tokenAddress := request.config.tokenAddress
    expectedAmountRaw := request.input.expectedAmountRaw
    paymentWindow := {
      id := ids.paymentWindowId
      orderId := ids.orderId
      childAccountId := ids.childAccountId
      receiveAddress := derived.address
      windowFrom := now
      windowFromBlock := windowFromBlock
      expiresAt := expiresAt
      monitorUntil := monitorUntil } }

section Command

variable {keccak256 : List UInt8 → BitVec 256} {ryu : BitVec 64 → String}
  {deriver : String → String → Except WalletError EvmAddress} {request : CreateRequest}
  {windowFromBlock : ChainBlockRef} {allocated : AllocatedDerivation} {now : Timestamp}
  {ids : NewOrderIds}

/-- **The command is the request's**: its owner and external id, its hash, the
token of its service, and the segment that was allocated to it. -/
structure CreateOrderCommand.OfRequest (keccak256 : List UInt8 → BitVec 256)
    (ryu : BitVec 64 → String) (request : CreateRequest) (command : CreateOrderCommand) :
    Prop where
  ownerSub : command.ownerSub = request.ownerSub
  externalId : command.externalId = request.input.externalId
  requestHash : command.requestHash = canonicalOrderRequestHash keccak256 ryu request.input
  chainId : command.chainId = request.config.chainId
  tokenAddress : command.tokenAddress = request.config.tokenAddress

theorem createOrderCommand_eq_ok {command : CreateOrderCommand}
    (h : createOrderCommand keccak256 ryu deriver request windowFromBlock allocated now ids
      = .ok command) :
    command.OfRequest keccak256 ryu request
      ∧ command.childAccount.signerKeyRef = trimText allocated.signerKeyRef
      ∧ command.childAccount.derivationSegment = allocated.segment
      ∧ command.childAccount.derivationPath = allocated.segment.derivationPath := by
  unfold createOrderCommand at h
  obtain ⟨derived, hderived, h⟩ := Except.bind_eq_ok.mp h
  obtain ⟨_, -, h⟩ := Except.bind_eq_ok.mp h
  obtain ⟨_, -, h⟩ := Except.bind_eq_ok.mp h
  obtain ⟨_, -, h⟩ := Except.bind_eq_ok.mp h
  obtain ⟨_, -, h⟩ := Except.bind_eq_ok.mp h
  have hat := deriveAddress_eq_ok hderived
  rw [← Except.ok.inj h]
  exact ⟨⟨rfl, rfl, rfl, rfl, rfl⟩, hat.signerKeyRef, hat.segment, hat.derivationPath⟩

/-- What a request can fail with while its command is put together: the wallet,
or a time out of range. -/
def OrderServiceError.ofCommand : OrderServiceError → Prop
  | .wallet _ | .timeOverflow _ | .integerOutOfRange _ => True
  | _ => False

/-- A segment's own path is the path the wallet derives. -/
theorem deriveAddress_failsOnly (hpath : allocated.derivationPath = allocated.segment.derivationPath) :
    (deriveAddress deriver allocated).FailsOnly OrderServiceError.ofCommand := by
  unfold deriveAddress
  refine .bind (.mapError (fun _ _ => trivial)) (fun request hrequest => ?_)
  refine .bind (.mapError (fun _ _ => trivial)) (fun derived hderived => ?_)
  have hat := deriveChildAddress_eq_ok (Except.mapError_eq_ok.mp hrequest)
    (Except.mapError_eq_ok.mp hderived)
  rw [decide_eq_true (hat.derivationPath.trans hpath.symm)]
  exact Except.failsOnly_ok _

theorem createOrderCommand_failsOnly
    (hpath : allocated.derivationPath = allocated.segment.derivationPath) :
    (createOrderCommand keccak256 ryu deriver request windowFromBlock allocated now
      ids).FailsOnly OrderServiceError.ofCommand := by
  have hduration : ∀ value field,
      (durationFromSecs value field).FailsOnly OrderServiceError.ofCommand := by
    intro value field
    unfold durationFromSecs
    split_ifs
    · exact Except.failsOnly_ok _
    · exact Except.failsOnly_error trivial
  have hadd : ∀ time duration field,
      (checkedAddTime time duration field).FailsOnly OrderServiceError.ofCommand := by
    intro time duration field
    unfold checkedAddTime
    split_ifs
    · exact Except.failsOnly_ok _
    · exact Except.failsOnly_error trivial
  unfold createOrderCommand
  refine .bind (deriveAddress_failsOnly hpath) (fun _ _ => ?_)
  refine .bind (hduration _ _) (fun _ _ => .bind (hduration _ _) (fun _ _ => ?_))
  exact .bind (hadd _ _ _) (fun _ _ => .bind (hadd _ _ _) (fun _ _ => Except.failsOnly_ok _))

end Command
