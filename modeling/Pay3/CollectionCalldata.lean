import Pay3.CollectionService
import Pay3.Permit

/-!
# A collection transaction moves the money

What a collection transaction calls on the token, under each of the four
strategies, and what the token does with it. A transfer, an authorization and
a meta-transaction all come to the same payment from the child account to the
destination. A permit does not: it lets the relayer take the amount later, and
nothing in the program ever takes it. The transaction succeeds all the same,
and success is all that the collector looks at.
-/

section Calldata

variable {ε : Type} (keccak256 : List UInt8 → BitVec 256)
  (signDigest : String → String → BitVec 256 → Except ε TypedSignature)

/-- The nonce of the authorization of a collection. -/
def authNonce (collectionId : Uuid) : BitVec 256 :=
  keccak256 (utf8 ("pay3:eip3009:" ++ collectionId.hyphenated))

/-- `now.saturating_sub(60)`. -/
def validAfter (now : UInt64) : UInt64 := if now < 60 then 0 else now - 60

/-- A day from now: until when an authorization or a permit is good. -/
def validBefore (now : UInt64) : UInt64 := now + 86400

/-- The nonce a meta-transaction is signed with. -/
def metaNonce : ℕ := 0

/-- The nonce a permit is signed with. -/
def permitNonce : ℕ := 0

/-- **`build_collection_calldata`**, with the clock in seconds. -/
def buildCollectionCalldata (strategy : CollectionStrategyConfig) (job : CollectionJob)
    (amount : RawAmount) (now : UInt64) : Except ε (List UInt8) :=
  let c := job.collection
  match strategy with
  | .standard => pure (erc20TransferData c.toAddress amount)
  | .eip3009 tokenName tokenVersion _ => do
    let domainSep := eip712DomainSeparator keccak256 tokenName tokenVersion c.chainId c.tokenAddress
    let structHash := eip3009StructHash keccak256 c.fromAddress c.toAddress amount (validAfter now)
      (validBefore now) (authNonce keccak256 c.id)
    let sig ← signDigest job.signerKeyRef job.derivationPath
      (eip712Digest keccak256 domainSep structHash)
    pure (encodeEip3009TransferWithAuthorization c.fromAddress c.toAddress amount (validAfter now)
      (validBefore now) (authNonce keccak256 c.id) sig)
  | .polygonMetaTx tokenName tokenVersion _ => do
    let domainSep := polygonMetaTxDomainSeparator keccak256 tokenName tokenVersion c.chainId
      c.tokenAddress
    let fnSig := erc20TransferData c.toAddress amount
    let structHash := polygonMetaTxStructHash keccak256 metaNonce c.fromAddress fnSig
    let sig ← signDigest job.signerKeyRef job.derivationPath
      (eip712Digest keccak256 domainSep structHash)
    pure (encodePolygonExecuteMetaTransaction c.fromAddress fnSig sig)
  | .eip2612 tokenName tokenVersion relayer => do
    let domainSep := eip712DomainSeparator keccak256 tokenName tokenVersion c.chainId c.tokenAddress
    let structHash := eip2612StructHash keccak256 c.fromAddress relayer.address amount permitNonce
      (validBefore now)
    let sig ← signDigest job.signerKeyRef job.derivationPath
      (eip712Digest keccak256 domainSep structHash)
    pure (encodeEip2612Permit c.fromAddress relayer.address amount (validBefore now) sig)

end Calldata

/-! ## What is signed and what is called -/

namespace CollectionStrategyConfig

/-- The domain the child account signs for, if it signs at all. -/
def tokenDomain (strategy : CollectionStrategyConfig) (c : CollectionRecord) :
    Option Token.Domain :=
  match strategy with
  | .standard => none
  | .eip3009 tokenName tokenVersion _ | .polygonMetaTx tokenName tokenVersion _
  | .eip2612 tokenName tokenVersion _ =>
    some ⟨tokenName, tokenVersion, c.chainId, c.tokenAddress⟩

/-- **What the child account signs.** -/
def message (keccak256 : List UInt8 → BitVec 256) (strategy : CollectionStrategyConfig)
    (c : CollectionRecord) (amount : RawAmount) (now : UInt64) : Option Token.Message :=
  match strategy with
  | .standard => none
  | .eip3009 _ _ _ => some (.transferWithAuthorization c.fromAddress c.toAddress amount
      (wordOfU64 (validAfter now)) (wordOfU64 (validBefore now)) (authNonce keccak256 c.id))
  | .polygonMetaTx _ _ _ => some (.metaTransaction metaNonce c.fromAddress
      (erc20TransferData c.toAddress amount))
  | .eip2612 _ _ relayer => some (.permit c.fromAddress relayer.address amount permitNonce
      (wordOfU64 (validBefore now)))

/-- **What the token is called with**, under a signature if there is one. -/
def call (keccak256 : List UInt8 → BitVec 256) (strategy : CollectionStrategyConfig)
    (c : CollectionRecord) (amount : RawAmount) (now : UInt64) (sig : TypedSignature) : Token.Call :=
  match strategy with
  | .standard => .transfer c.toAddress amount
  | .eip3009 _ _ _ => .transferWithAuthorization c.fromAddress c.toAddress amount
      (wordOfU64 (validAfter now)) (wordOfU64 (validBefore now)) (authNonce keccak256 c.id) sig
  | .polygonMetaTx _ _ _ => .executeMetaTransaction c.fromAddress
      (erc20TransferData c.toAddress amount) sig
  | .eip2612 _ _ relayer => .permit c.fromAddress relayer.address amount
      (wordOfU64 (validBefore now)) sig

/-- The strategy that only signs a permit. -/
def isEip2612 : CollectionStrategyConfig → Bool
  | .eip2612 _ _ _ => true
  | _ => false

end CollectionStrategyConfig

theorem length_erc20TransferData (toAddress : EvmAddress) (amount : RawAmount) :
    (erc20TransferData toAddress amount).length = 68 := by
  simp [erc20TransferData, addressWord, amountWord]

section Calldata

variable {ε : Type} {keccak256 : List UInt8 → BitVec 256}
  {signDigest : String → String → BitVec 256 → Except ε TypedSignature}
  {strategy : CollectionStrategyConfig} {job : CollectionJob} {amount : RawAmount} {now : UInt64}
  {data : List UInt8}

/-- **The calldata of a collection is the call of its strategy**, and the
signature in it is over the message of the strategy. -/
theorem buildCollectionCalldata_eq_ok
    (h : buildCollectionCalldata keccak256 signDigest strategy job amount now = .ok data) :
    ∃ sig, Token.decode data = some (strategy.call keccak256 job.collection amount now sig)
      ∧ ∀ m ∈ strategy.message keccak256 job.collection amount now,
        ∀ d ∈ strategy.tokenDomain job.collection,
          signDigest job.signerKeyRef job.derivationPath (m.digest keccak256 d) = .ok sig := by
  cases strategy with
  | standard =>
    obtain rfl := Except.pure_eq_ok.mp h
    have hdecode := decode_erc20TransferData job.collection.toAddress amount []
    rw [List.append_nil] at hdecode
    exact ⟨⟨0, 0, 0⟩, hdecode, fun m hm => by cases hm⟩
  | eip3009 tokenName tokenVersion relayer =>
    obtain ⟨sig, hsig, h⟩ := Except.bind_eq_ok.mp h
    obtain rfl := Except.pure_eq_ok.mp h
    refine ⟨sig, decode_encodeEip3009 _ _ _ _ _ _ _, fun m hm d hd => ?_⟩
    obtain rfl := Option.some.inj hm
    obtain rfl := Option.some.inj hd
    rw [← eip3009_digest]
    exact hsig
  | polygonMetaTx tokenName tokenVersion relayer =>
    obtain ⟨sig, hsig, h⟩ := Except.bind_eq_ok.mp h
    obtain rfl := Except.pure_eq_ok.mp h
    refine ⟨sig, decode_encodePolygon _ _ _ ?_, fun m hm d hd => ?_⟩
    · rw [length_erc20TransferData]
      norm_num
    · obtain rfl := Option.some.inj hm
      obtain rfl := Option.some.inj hd
      rw [← polygonMetaTx_digest]
      exact hsig
  | eip2612 tokenName tokenVersion relayer =>
    obtain ⟨sig, hsig, h⟩ := Except.bind_eq_ok.mp h
    obtain rfl := Except.pure_eq_ok.mp h
    refine ⟨sig, decode_encodeEip2612 _ _ _ _ _, fun m hm d hd => ?_⟩
    obtain rfl := Option.some.inj hm
    obtain rfl := Option.some.inj hd
    rw [← eip2612_digest]
    exact hsig

end Calldata

/-! ## What the token does -/

/-- Nothing that an account signed has reached the token yet. -/
def Token.State.FreshFor (s : Token.State) (holder : EvmAddress) : Prop :=
  (∀ nonce, s.authorizationUsed holder nonce = false) ∧ s.metaNonces holder = 0
    ∧ s.permitNonces holder = 0

/-- The block is mined while what was signed is good. -/
def CollectionStrategyConfig.InWindow (strategy : CollectionStrategyConfig) (now : UInt64)
    (blockTime : ℕ) : Prop :=
  match strategy with
  | .eip3009 _ _ _ => (validAfter now).toNat < blockTime ∧ blockTime < (validBefore now).toNat
  | .eip2612 _ _ _ => blockTime ≤ (validBefore now).toNat
  | _ => True

/-- The token is the one the collection is about. -/
def CollectionStrategyConfig.DeployedAs (strategy : CollectionStrategyConfig) (c : CollectionRecord)
    (d : Token.Domain) : Prop :=
  ∀ d' ∈ strategy.tokenDomain c, d = d'

/-- What the key of the job signs verifies as signed by the child account. -/
def Verifies {ε : Type} (ecrecover : BitVec 256 → TypedSignature → Option EvmAddress)
    (signDigest : String → String → BitVec 256 → Except ε TypedSignature) (job : CollectionJob) :
    Prop :=
  ∀ digest sig, signDigest job.signerKeyRef job.derivationPath digest = .ok sig →
    ecrecover digest sig = some job.collection.fromAddress

/-- **The transaction moves the amount**: it succeeds, the child account has that
much less and the destination that much more. -/
def Sweeps (keccak256 : List UInt8 → BitVec 256)
    (ecrecover : BitVec 256 → TypedSignature → Option EvmAddress) (d : Token.Domain)
    (blockTime : ℕ) (s : Token.State) (strategy : CollectionStrategyConfig) (c : CollectionRecord)
    (amount : RawAmount) (data : List UInt8) : Prop :=
  ∃ s', s.execute keccak256 ecrecover d blockTime (payerAddress strategy c) data = some s'
    ∧ s'.balances c.fromAddress + amount.toNat = s.balances c.fromAddress
    ∧ s'.balances c.toAddress = s.balances c.toAddress + amount.toNat

section Token

variable {ε : Type} {keccak256 : List UInt8 → BitVec 256}
  {ecrecover : BitVec 256 → TypedSignature → Option EvmAddress}
  {signDigest : String → String → BitVec 256 → Except ε TypedSignature}
  {strategy : CollectionStrategyConfig} {job : CollectionJob} {amount : RawAmount} {now : UInt64}
  {data : List UInt8} {d : Token.Domain} {blockTime : ℕ} {s : Token.State}

/-- The signature in the calldata is good for the message of the strategy. -/
theorem signed_of_calldata
    (hdata : buildCollectionCalldata keccak256 signDigest strategy job amount now = .ok data)
    (hverify : Verifies ecrecover signDigest job) (hd : strategy.DeployedAs job.collection d) :
    ∃ sig, Token.decode data = some (strategy.call keccak256 job.collection amount now sig)
      ∧ ∀ m ∈ strategy.message keccak256 job.collection amount now,
        Token.Signed keccak256 ecrecover d m sig job.collection.fromAddress := by
  obtain ⟨sig, hdecode, hsig⟩ := buildCollectionCalldata_eq_ok hdata
  refine ⟨sig, hdecode, fun m hm => ?_⟩
  have hdomain : ∃ d', d' ∈ strategy.tokenDomain job.collection := by
    cases strategy with
    | standard => cases hm
    | _ => exact ⟨_, rfl⟩
  obtain ⟨d', hd'⟩ := hdomain
  rw [hd d' hd']
  exact hverify _ sig (hsig m hm d' hd')

/-- **Under every other strategy the token is asked for the payment**, by whoever
sends the transaction. -/
theorem execute_eq_move
    (hdata : buildCollectionCalldata keccak256 signDigest strategy job amount now = .ok data)
    (hverify : Verifies ecrecover signDigest job) (hd : strategy.DeployedAs job.collection d)
    (hwindow : strategy.InWindow now blockTime) (hfresh : s.FreshFor job.collection.fromAddress)
    (hpermit : strategy.isEip2612 = false) :
    ∃ s₁ : Token.State, s₁.balances = s.balances
      ∧ s.execute keccak256 ecrecover d blockTime (payerAddress strategy job.collection) data
        = s₁.move job.collection.fromAddress job.collection.toAddress amount.toNat := by
  obtain ⟨sig, hdecode, hsigned⟩ := signed_of_calldata hdata hverify hd
  unfold Token.State.execute
  rw [hdecode, Option.bind_some]
  cases strategy with
  | standard => exact ⟨s, rfl, rfl⟩
  | eip3009 tokenName tokenVersion relayer =>
    refine ⟨s.useAuthorization job.collection.fromAddress (authNonce keccak256 job.collection.id),
      rfl, ?_⟩
    show Token.State.call keccak256 ecrecover d blockTime s _ (.transferWithAuthorization _ _ _ _ _ _ _)
      = _
    rw [Token.State.call, if_pos]
    refine ⟨?_, ?_, hfresh.1 _, hsigned _ rfl⟩
    · rw [toNat_wordOfU64]
      exact hwindow.1
    · rw [toNat_wordOfU64]
      exact hwindow.2
  | polygonMetaTx tokenName tokenVersion relayer =>
    refine ⟨s.countMetaTransaction job.collection.fromAddress, rfl, ?_⟩
    show (if _ then _ else _) = _
    rw [if_pos, decode_erc20TransferData]
    · rfl
    · rw [hfresh.2.1]
      exact hsigned _ rfl
  | eip2612 tokenName tokenVersion relayer => cases hpermit

/-- **Under a permit the transaction succeeds and no balance changes.** -/
theorem execute_of_permit
    (hdata : buildCollectionCalldata keccak256 signDigest strategy job amount now = .ok data)
    (hverify : Verifies ecrecover signDigest job) (hd : strategy.DeployedAs job.collection d)
    (hwindow : strategy.InWindow now blockTime) (hfresh : s.FreshFor job.collection.fromAddress)
    (hpermit : strategy.isEip2612 = true) :
    ∃ s', s.execute keccak256 ecrecover d blockTime (payerAddress strategy job.collection) data
        = some s' ∧ s'.balances = s.balances := by
  obtain ⟨sig, hdecode, hsigned⟩ := signed_of_calldata hdata hverify hd
  unfold Token.State.execute
  rw [hdecode, Option.bind_some]
  cases strategy with
  | eip2612 tokenName tokenVersion relayer =>
    refine ⟨s.approve job.collection.fromAddress relayer.address amount.toNat, ?_, rfl⟩
    show Token.State.call keccak256 ecrecover d blockTime s _ (.permit _ _ _ _ _) = _
    rw [Token.State.call, if_pos]
    refine ⟨?_, ?_⟩
    · rw [toNat_wordOfU64]
      exact hwindow
    · rw [hfresh.2.2]
      exact hsigned _ rfl
  | _ => cases hpermit

end Token

/-- **A collection transaction moves the amount exactly when it asks for a payment
between two different accounts**, or for none. -/
theorem sweeps_iff {ε : Type} (keccak256 : List UInt8 → BitVec 256)
    (ecrecover : BitVec 256 → TypedSignature → Option EvmAddress)
    (signDigest : String → String → BitVec 256 → Except ε TypedSignature)
    (strategy : CollectionStrategyConfig) (job : CollectionJob) (amount : RawAmount) (now : UInt64)
    (data : List UInt8) (d : Token.Domain) (blockTime : ℕ) (s : Token.State)
    (hdata : buildCollectionCalldata keccak256 signDigest strategy job amount now = .ok data)
    (hverify : Verifies ecrecover signDigest job) (hd : strategy.DeployedAs job.collection d)
    (hwindow : strategy.InWindow now blockTime) (hfresh : s.FreshFor job.collection.fromAddress)
    (hbalance : amount.toNat ≤ s.balances job.collection.fromAddress) :
    Sweeps keccak256 ecrecover d blockTime s strategy job.collection amount data
      ↔ amount = 0 ∨ (strategy.isEip2612 = false
        ∧ job.collection.fromAddress ≠ job.collection.toAddress) := by
  have hzero : amount.toNat = 0 ↔ amount = 0 := BitVec.toNat_inj (y := 0#256)
  cases hpermit : strategy.isEip2612 with
  | true =>
    obtain ⟨s', hexec, hsame⟩ := execute_of_permit hdata hverify hd hwindow hfresh hpermit
    rw [← hzero]
    constructor
    · rintro ⟨t, ht, hfrom, -⟩
      obtain rfl := Option.some.inj (hexec.symm.trans ht)
      rw [hsame] at hfrom
      exact Or.inl (by omega)
    · rintro (h | ⟨h, -⟩)
      · exact ⟨s', hexec, by rw [hsame, h]; rfl, by rw [hsame, h]; rfl⟩
      · cases h
  | false =>
    obtain ⟨s₁, hsame, hexec⟩ := execute_eq_move hdata hverify hd hwindow hfresh hpermit
    rw [← hsame] at hbalance
    obtain ⟨s', hmove, hdiff, hself⟩ := @Token.State.move_eq_some s₁
      job.collection.fromAddress job.collection.toAddress amount.toNat hbalance
    rw [hmove] at hexec
    rw [hsame] at hdiff hself
    by_cases heq : job.collection.fromAddress = job.collection.toAddress
    · -- a payment to oneself changes nothing
      have hbalances := hself heq
      rw [← hzero]
      constructor
      · rintro ⟨t, ht, hfrom, -⟩
        obtain rfl := Option.some.inj (hexec.symm.trans ht)
        rw [hbalances] at hfrom
        exact Or.inl (by omega)
      · rintro (h | ⟨-, hne⟩)
        · exact ⟨s', hexec, by rw [hbalances, h]; rfl, by rw [hbalances, h]; rfl⟩
        · exact absurd heq hne
    · exact ⟨fun _ => Or.inr ⟨rfl, heq⟩, fun _ => ⟨s', hexec, hdiff heq⟩⟩

/-! ## A small token

A child account with 250 of a token called USD Coin, swept to a treasury by a
relayer. The hashes and the signatures are those of the real functions, for the
texts and digests that occur. -/

namespace SmallToken

/-- The child account, whose key is the number 1. -/
def child : EvmAddress := 0x7e5f4552091a69125d5dfcb7b8c2659029395bdf

/-- The collection of 100. -/
def collection : CollectionRecord where
  id := 0xd1
  ownerSub := "merchant"
  orderId := 0xb1
  idempotencyKey := "collect-1"
  requestHash := "0x01"
  childAccountId := 0xa1
  chainId := 1
  tokenAddress := 0x70
  fromAddress := child
  toAddress := 0x7e
  amountRaw := some 100
  status := .queued
  outboundTxId := none
  attemptCount := 1
  lockedBy := some "collector-0"
  lockedUntil := some 60
  error := none
  createdAt := 0
  updatedAt := 0

/-- The job a worker claims. -/
def job : CollectionJob :=
  ⟨collection, "master", 1, ⟨0, 0, 0, Nat.zero_le _, Nat.zero_le _, Nat.zero_le _⟩, "m/44'/60'/0'/0/0"⟩

/-- The account that pays for gas. -/
def relayer : RelayerConfig := ⟨0xbe, "relayer", "m/44'/60'/0'/0/1"⟩

/-- Sweeps by authorization. -/
def byAuthorization : CollectionStrategyConfig := .eip3009 "USD Coin" "2" relayer

/-- Sweeps by permit. -/
def byPermit : CollectionStrategyConfig := .eip2612 "USD Coin" "2" relayer

/-- The clock. -/
def now : UInt64 := 1700000000

/-- The token as it was deployed. -/
def domain : Token.Domain := ⟨"USD Coin", "2", 1, 0x70⟩

/-- The child account has 250, and has signed nothing yet. -/
def state : Token.State where
  balances := fun a => if a = child then 250 else 0
  allowances := fun _ _ => 0
  authorizationUsed := fun _ _ => false
  metaNonces := fun _ => 0
  permitNonces := fun _ => 0

def separator : BitVec 256 := 0x6e7c330f8af7632f3900c31220a423446c88c11b8d843168113c6a4bd4231d2e

def nonce : BitVec 256 := 0x677f88e72f56921e495682e3b341909d70a8030c926ba38070e6086d365129a8

def authorizationHash : BitVec 256 :=
  0xee1649ea35a60196b1438fed96333df75a6d26c2498d0cc832bec4ba76f308f8

def authorizationDigest : BitVec 256 :=
  0xc9ebb099364f19c78b1fcd112f4668f567434d52ea4fdadfca8ed71a236ae621

def permitHash : BitVec 256 := 0x2165711c200c3d0c17af84089f2c9628266ff3fea799039b10aab66c1c1c2783

def permitDigest : BitVec 256 := 0x724fb8902df30554c2ca318435a0fd4c7cd09a0eef3b30739e5de44e12695cd

/-- A permit signed half a minute later. -/
def laterPermitHash : BitVec 256 :=
  0x4c09f6709dee12efb9a9ed1abaf997c8a8ddbed7553d7e1cf3113ca09428c37c

def laterPermitDigest : BitVec 256 :=
  0x40b886ad7b5dcc8b6b68c414518157261b5851c242e280046388f1c9bc0c7f76

/-- The hashes of what is hashed. -/
def hashes : List (List UInt8 × BitVec 256) :=
  [(utf8 "EIP712Domain(string name,string version,uint256 chainId,address verifyingContract)",
      0x8b73c3c69bb8fe3d512ecc4cf759cc79239f7b179b0ffacaa9a75d522b39400f),
    (utf8 "USD Coin", 0x52878b207aaddbfc15ea7bebcda681eb8ccd306e2227b61cef68505c8c056341),
    (utf8 "2", 0xad7c5bef027816a800da1736444fb58a807ef4c9603b7848673f7e3a68eb14a5),
    (Abi.encodeWords [0x8b73c3c69bb8fe3d512ecc4cf759cc79239f7b179b0ffacaa9a75d522b39400f,
      0x52878b207aaddbfc15ea7bebcda681eb8ccd306e2227b61cef68505c8c056341,
      0xad7c5bef027816a800da1736444fb58a807ef4c9603b7848673f7e3a68eb14a5, 1, 0x70], separator),
    (utf8 "pay3:eip3009:00000000-0000-0000-0000-0000000000d1", nonce),
    (utf8 ("TransferWithAuthorization(address from,address to,uint256 value,"
        ++ "uint256 validAfter,uint256 validBefore,bytes32 nonce)"),
      0x7c7c6cdb67a18743f49ec6fa9b35f50d52ed05cbed4cc592e13b44501c1a2267),
    (Abi.encodeWords [0x7c7c6cdb67a18743f49ec6fa9b35f50d52ed05cbed4cc592e13b44501c1a2267,
      child.toNat, 0x7e, 100, 1699999940, 1700086400, nonce.toNat], authorizationHash),
    (0x19 :: 0x01 :: Abi.encodeWords [separator.toNat, authorizationHash.toNat],
      authorizationDigest),
    (utf8 "Permit(address owner,address spender,uint256 value,uint256 nonce,uint256 deadline)",
      0x6e71edae12b1b97f4d1f60370fef10105fa2faae0126114a169c64845d6126c9),
    (Abi.encodeWords [0x6e71edae12b1b97f4d1f60370fef10105fa2faae0126114a169c64845d6126c9,
      child.toNat, 0xbe, 100, 0, 1700086400], permitHash),
    (0x19 :: 0x01 :: Abi.encodeWords [separator.toNat, permitHash.toNat], permitDigest),
    (Abi.encodeWords [0x6e71edae12b1b97f4d1f60370fef10105fa2faae0126114a169c64845d6126c9,
      child.toNat, 0xbe, 100, 0, 1700086430], laterPermitHash),
    (0x19 :: 0x01 :: Abi.encodeWords [separator.toNat, laterPermitHash.toNat],
      laterPermitDigest)]

/-- `keccak256` on them. -/
def keccak256 (bytes : List UInt8) : BitVec 256 :=
  ((hashes.find? (fun h => decide (h.1 = bytes))).map Prod.snd).getD 0

/-- The digests the child account signs, with its signatures. -/
def signatures : List (BitVec 256 × TypedSignature) :=
  [(authorizationDigest,
      ⟨27, 0xd47644539acec3da5e3ecf5fe8863c628a9c97e8b71e9ea9167a6f4f83c03c32,
        0x52466b2a24cce92818d6e8d5800c0347caf5552aa1e8f413432bf1a743038d1⟩),
    (permitDigest,
      ⟨27, 0xf30e4bd8094e53a679ddb8f55b5216b03c44623fc4279ef0791f9aa1f6930d49,
        0x6b205f6f4e2521fa85d30e823c813525593882bc450d0e78112c87fa7faf17ce⟩),
    (laterPermitDigest,
      ⟨28, 0x711883e19e6986fc038402e1f9b6c1cd4c1266c8bff36a9473194a664a748aff,
        0x57e65dae1226d6720d2c4df622ac813c74a9fac48c8100008708310d5bf3dec0⟩)]

/-- `sign_digest` on them. -/
def signDigest (_ _ : String) (digest : BitVec 256) : Except String TypedSignature :=
  orError ((signatures.find? (fun p => decide (p.1 = digest))).map Prod.snd) "unknown digest"

instance : LawfulBEq (BitVec 256 × TypedSignature) := inferInstance

/-- The recovery of the signer. -/
def ecrecover (digest : BitVec 256) (sig : TypedSignature) : Option EvmAddress :=
  if (digest, sig) ∈ signatures then some child else none

/-- Whatever is signed for the child account verifies. -/
theorem verifies_of_child {job : CollectionJob} (hchild : job.collection.fromAddress = child) :
    Verifies ecrecover signDigest job := by
  intro digest sig h
  rw [hchild]
  obtain ⟨p, hp, rfl⟩ := Option.map_eq_some_iff.mp (orError_eq_ok.mp h)
  have hdigest : p.1 = digest := by simpa using List.find?_some hp
  subst hdigest
  exact if_pos (List.mem_of_find?_eq_some hp)

theorem freshFor_state : state.FreshFor job.collection.fromAddress :=
  ⟨fun _ => rfl, rfl, rfl⟩

end SmallToken

open SmallToken in
/-- An authorization for 100 moves 100. -/
theorem sweeps_of_authorization :
    ∃ data, buildCollectionCalldata keccak256 signDigest byAuthorization job 100 now = .ok data
      ∧ Sweeps keccak256 ecrecover domain 1700000012 state byAuthorization job.collection 100
        data := by
  have hok : (buildCollectionCalldata keccak256 signDigest byAuthorization job 100
      now).toOption.isSome = true := by decide +kernel
  obtain ⟨data, hdata⟩ := Option.isSome_iff_exists.mp hok
  have hdata := Except.toOption_eq_some.mp hdata
  have hdomain : byAuthorization.DeployedAs job.collection domain := by
    intro d' hd'
    exact Option.some.inj hd'
  refine ⟨data, hdata, ?_⟩
  exact (sweeps_iff keccak256 ecrecover signDigest byAuthorization job 100 now data domain
    1700000012 state hdata (verifies_of_child rfl) hdomain ⟨by decide, by decide⟩ freshFor_state
    (by decide)).mpr (Or.inr ⟨rfl, by decide⟩)

open SmallToken in
/-- **A permit for 100 succeeds and moves nothing.** -/
theorem sweeps_fails :
    ¬ ∀ (ε : Type) (keccak256 : List UInt8 → BitVec 256)
      (ecrecover : BitVec 256 → TypedSignature → Option EvmAddress)
      (signDigest : String → String → BitVec 256 → Except ε TypedSignature)
      (strategy : CollectionStrategyConfig) (job : CollectionJob) (amount : RawAmount)
      (now : UInt64) (data : List UInt8) (d : Token.Domain) (blockTime : ℕ) (s : Token.State),
      buildCollectionCalldata keccak256 signDigest strategy job amount now = .ok data →
      Verifies ecrecover signDigest job → strategy.DeployedAs job.collection d →
      strategy.InWindow now blockTime → s.FreshFor job.collection.fromAddress →
      amount.toNat ≤ s.balances job.collection.fromAddress →
      Sweeps keccak256 ecrecover d blockTime s strategy job.collection amount data := by
  intro hall
  have hok : (buildCollectionCalldata keccak256 signDigest byPermit job 100
      now).toOption.isSome = true := by decide +kernel
  obtain ⟨data, hdata⟩ := Option.isSome_iff_exists.mp hok
  have hdata := Except.toOption_eq_some.mp hdata
  have hdomain : byPermit.DeployedAs job.collection domain := by
    intro d' hd'
    exact Option.some.inj hd'
  have hwindow : byPermit.InWindow now 1700000012 :=
    show 1700000012 ≤ (validBefore now).toNat by decide
  obtain ⟨s', hexec, hfrom, -⟩ := hall String keccak256 ecrecover signDigest byPermit job 100 now
    data domain 1700000012 state hdata (verifies_of_child rfl) hdomain hwindow freshFor_state (by decide)
  obtain ⟨t, ht, hsame⟩ := execute_of_permit hdata (verifies_of_child rfl) hdomain hwindow freshFor_state rfl
  obtain rfl := Option.some.inj (hexec.symm.trans ht)
  rw [hsame] at hfrom
  exact absurd hfrom (by decide)
