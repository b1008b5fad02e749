import Pay3.CollectionTables

/-!
# The decisions of the collection service

The parts of `CollectionService` that stand between its calls to the
database, the node and the signer: who pays for a collection, what amount it
moves, what fees it offers, and the checks a signed transaction and a
replacement have to pass. Each takes the answers it depends on as arguments.
-/

/-- The account that pays for gasless collections. -/
structure RelayerConfig where
  address : EvmAddress
  keyRef : String
  derivationPath : String
  deriving DecidableEq

/-- `CollectionStrategyConfig`. -/
inductive CollectionStrategyConfig
  | standard
  | eip3009 (tokenName tokenVersion : String) (relayer : RelayerConfig)
  | polygonMetaTx (tokenName tokenVersion : String) (relayer : RelayerConfig)
  | eip2612 (tokenName tokenVersion : String) (relayer : RelayerConfig)
  deriving DecidableEq

/-- The relayer of a strategy, if it has one. -/
def CollectionStrategyConfig.relayer : CollectionStrategyConfig → Option RelayerConfig
  | .standard => none
  | .eip3009 _ _ relayer | .polygonMetaTx _ _ relayer | .eip2612 _ _ relayer => some relayer

/-- `CollectionFees`. -/
structure CollectionFees where
  gasLimit : ℕ
  maxFeePerGas : RawAmount
  maxPriorityFeePerGas : RawAmount
  deriving DecidableEq

/-- `Eip1559FeeEstimate`, the node's answer. -/
structure Eip1559FeeEstimate where
  maxFeePerGas : RawAmount
  maxPriorityFeePerGas : RawAmount
  deriving DecidableEq

/-- What the signer returns. -/
structure SignedTx where
  chainId : ℕ
  nonce : ℕ
  fromAddress : EvmAddress
  toAddress : EvmAddress
  txHash : TxHash
  rawTx : List UInt8
  deriving DecidableEq

/-- **The errors the service raises itself.** -/
inductive CollectionServiceError
  | invalidArgument (field message : String)
  | orderNotFound (orderId : Uuid)
  | orderNotCollectable (orderId : Uuid) (status : OrderStatus)
  | orderStreamMismatch (orderId : Uuid)
  | collectionNotFound (collectionId : Uuid)
  | zeroCollectionAmount (collectionId : Uuid)
  | insufficientTokenBalance (collectionId : Uuid) (balance required : RawAmount)
  | nonceOutOfRange (nonce : RawAmount)
  | signedTxInvariant (message : String)
  | replacementNotEligible (collectionId : Uuid) (status : CollectionRecordStatus)
  | replacementAmountUnavailable (collectionId : Uuid)
  | repository (error : RepositoryError)
  deriving DecidableEq

/-- The lower-case hexadecimal form of an address, as error texts show it. -/
def EvmAddress.display (a : EvmAddress) : String := "0x" ++ String.ofList (hexDigits 40 a.toNat)

/-- The larger of two amounts. -/
def RawAmount.max (a b : RawAmount) : RawAmount := if a ≤ b then b else a

/-! ## Payer, amount and fees -/

/-- The address a collection is paid from. -/
def payerAddress (strategy : CollectionStrategyConfig) (c : CollectionRecord) : EvmAddress :=
  match strategy.relayer with
  | some relayer => relayer.address
  | none => c.fromAddress

/-- `resolve_collection_amount`, for the token balance the node answers. -/
def resolveCollectionAmount (c : CollectionRecord) (balance : RawAmount) :
    Except CollectionServiceError RawAmount := do
  let amount ← match c.amountRaw with
    | some amount =>
      if balance < amount then
        .error (.insufficientTokenBalance c.id balance amount)
      else .ok amount
    | none => .ok balance
  ensure (decide (amount ≠ 0)) (.zeroCollectionAmount c.id)
  return amount

/-- `collection_fees_from_estimate`. -/
def collectionFeesFromEstimate (configured : CollectionFees) (estimate : Eip1559FeeEstimate) :
    CollectionFees :=
  let maxPriorityFeePerGas :=
    RawAmount.max configured.maxPriorityFeePerGas estimate.maxPriorityFeePerGas
  { gasLimit := configured.gasLimit
    maxFeePerGas :=
      RawAmount.max (RawAmount.max configured.maxFeePerGas estimate.maxFeePerGas)
        maxPriorityFeePerGas
    maxPriorityFeePerGas := maxPriorityFeePerGas }

/-- `raw_amount_to_u64`. -/
def rawAmountToU64 (nonce : RawAmount) : Except CollectionServiceError ℕ :=
  if nonce.toNat ≤ u64Max then .ok nonce.toNat else .error (.nonceOutOfRange nonce)

/-- `bump_raw_amount`: ten per cent more, and at least one. -/
def bumpRawAmount (amount : RawAmount) : Except CollectionServiceError RawAmount :=
  let bump := if amount.toNat / 10 = 0 then 1 else amount.toNat / 10
  if amount.toNat + bump < 2 ^ 256 then .ok (BitVec.ofNat 256 (amount.toNat + bump))
  else .error (.signedTxInvariant s!"replacement fee bump overflowed for amount {amount.toNat}")

/-- `bump_collection_fees`. -/
def bumpCollectionFees (fees : CollectionFees) : Except CollectionServiceError CollectionFees := do
  let maxFeePerGas ← bumpRawAmount fees.maxFeePerGas
  let maxPriorityFeePerGas ← bumpRawAmount fees.maxPriorityFeePerGas
  return ⟨fees.gasLimit, maxFeePerGas, maxPriorityFeePerGas⟩

/-! ## The checks of a signed transaction -/

/-- **`ensure_signed_tx_matches_job`.** -/
def ensureSignedTxMatchesJob (c : CollectionRecord) (signed : SignedTx)
    (expectedFrom : EvmAddress) (nonce : ℕ) : Except CollectionServiceError Unit := do
  ensure (decide (signed.chainId = c.chainId)) (.signedTxInvariant
    s!"signed chain id {signed.chainId} did not match collection chain id {c.chainId}")
  ensure (decide (signed.nonce = nonce)) (.signedTxInvariant
    s!"signed nonce {signed.nonce} did not match reserved nonce {nonce}")
  let from_ := EvmAddress.display signed.fromAddress
  let expected := EvmAddress.display expectedFrom
  ensure (decide (signed.fromAddress = expectedFrom)) (.signedTxInvariant
    s!"signed from {from_} did not match expected from {expected}")
  let to_ := EvmAddress.display signed.toAddress
  let token := EvmAddress.display c.tokenAddress
  ensure (decide (signed.toAddress = c.tokenAddress)) (.signedTxInvariant
    s!"signed to {to_} did not match token contract {token}")

/-! ## The checks of a replacement -/

/-- `CollectionTxPlan`, less its purpose, which has one value. -/
structure CollectionTxPlan where
  chainId : ℕ
  nonce : ℕ
  fromAddress : EvmAddress
  toAddress : EvmAddress
  amount : RawAmount
  fees : CollectionFees
  deriving DecidableEq

/-- **`assert_replacement_allowed`**: everything but the fees stays, and both
fees go up. The errors carry the text the service wraps them in. -/
def CollectionTxPlan.assertReplacementAllowed (plan replacement : CollectionTxPlan) :
    Except CollectionServiceError Unit := do
  ensure (decide (plan.chainId = replacement.chainId)) (.signedTxInvariant
    s!"collection replacement cannot change chain id ({plan.chainId} -> {replacement.chainId})")
  ensure (decide (plan.nonce = replacement.nonce)) (.signedTxInvariant
    s!"collection replacement must use the same nonce ({plan.nonce} -> {replacement.nonce})")
  let from_ := EvmAddress.display plan.fromAddress
  let newFrom := EvmAddress.display replacement.fromAddress
  ensure (decide (plan.fromAddress = replacement.fromAddress)) (.signedTxInvariant
    s!"collection replacement cannot change from address ({from_} -> {newFrom})")
  let to_ := EvmAddress.display plan.toAddress
  let newTo := EvmAddress.display replacement.toAddress
  ensure (decide (plan.toAddress = replacement.toAddress)) (.signedTxInvariant
    s!"collection replacement cannot change to address ({to_} -> {newTo})")
  let amount := plan.amount.toNat
  let newAmount := replacement.amount.toNat
  ensure (decide (plan.amount = replacement.amount)) (.signedTxInvariant
    s!"collection replacement cannot change amount ({amount} -> {newAmount})")
  let fee := plan.fees.maxFeePerGas.toNat
  let newFee := replacement.fees.maxFeePerGas.toNat
  ensure (decide (plan.fees.maxFeePerGas < replacement.fees.maxFeePerGas)) (.signedTxInvariant
    s!"collection replacement max fee per gas must exceed previous fee ({fee} -> {newFee})")
  let tip := plan.fees.maxPriorityFeePerGas.toNat
  let newTip := replacement.fees.maxPriorityFeePerGas.toNat
  ensure (decide (plan.fees.maxPriorityFeePerGas < replacement.fees.maxPriorityFeePerGas))
    (.signedTxInvariant
      (s!"collection replacement max priority fee per gas must exceed previous fee "
        ++ s!"({tip} -> {newTip})"))

/-- **The eligibility checks of `replace_collection_job`**, made on the
collection as it is read back and on the outbound transaction as it was
claimed. -/
def ensureReplacementEligible (c : CollectionRecord) (claimed : OutboundTxRecord) :
    Except CollectionServiceError Unit := do
  ensure (decide (c.status = .transferring) || decide (c.status = .confirming))
    (.replacementNotEligible c.id c.status)
  let id := c.id.hyphenated
  let attached := (c.outboundTxId.map Uuid.hyphenated).getD "none"
  let candidate := claimed.id.hyphenated
  ensure (decide (c.outboundTxId = some claimed.id)) (.signedTxInvariant
    s!"collection {id} outbound {attached} did not match claimed replacement candidate {candidate}")
  let status := claimed.status.debugName
  ensure (decide (claimed.status = .broadcast)) (.signedTxInvariant
    s!"outbound {candidate} must be broadcast before replacement, got {status}")

/-- **The plan of a replacement**: the amount the collection settled on, the
nonce of the claimed transaction, the payer of the strategy, and fees above
both the estimate and the bumped old fees. -/
def replacementPlan (strategy : CollectionStrategyConfig) (configured : CollectionFees)
    (c : CollectionRecord) (claimed : OutboundTxRecord) (estimate : Eip1559FeeEstimate) :
    Except CollectionServiceError CollectionTxPlan := do
  let amount ← orError c.amountRaw (.replacementAmountUnavailable c.id)
  let nonce ← rawAmountToU64 claimed.nonce
  let previous : CollectionFees :=
    ⟨claimed.gasLimit, claimed.maxFeePerGas, claimed.maxPriorityFeePerGas⟩
  let current := collectionFeesFromEstimate configured estimate
  let bumped ← bumpCollectionFees previous
  let fees : CollectionFees :=
    ⟨max current.gasLimit bumped.gasLimit,
      RawAmount.max current.maxFeePerGas bumped.maxFeePerGas,
      RawAmount.max current.maxPriorityFeePerGas bumped.maxPriorityFeePerGas⟩
  let payer := payerAddress strategy c
  let id := claimed.id.hyphenated
  let from_ := EvmAddress.display claimed.fromAddress
  let expected := EvmAddress.display payer
  ensure (decide (claimed.fromAddress = payer)) (.signedTxInvariant
    s!"outbound {id} from_address {from_} did not match expected payer {expected}")
  let original : CollectionTxPlan := ⟨c.chainId, nonce, payer, c.toAddress, amount, previous⟩
  original.assertReplacementAllowed { original with fees := fees }
  return { original with fees := fees }
