import Pay3.CollectionCalldata
import Pay3.Holdings
import Pay3.MarkedSteps

/-!
# The test tokens

Two contracts are deployed where the real tokens are not: a dollar coin that
takes authorizations, and a tether that takes meta-transactions. Both keep
balances and allowances in words and add without looking for an overflow. The
first can also cancel an authorization; the second runs two functions in the
name of a signer, and reads them from the bytes that were signed.

A run is any sequence of transactions, those that revert among them. The
balances together are the supply, as words always, and as numbers as long as
everything minted fits a word (`Mock.Usdc.supply_of_usdc`,
`Mock.Usdt.supply_of_usdt`). An authorization is used or cancelled at most once
(`Mock.Usdc.authorization_of_run`). Meta-transactions of a signer run one for
each number, in order (`Mock.Usdt.nonces_of_run`).
-/

namespace Mock

open Token (Address Word Signature Domain)

/-! ## What both have -/

/-- The balances and allowances of a contract. -/
structure Erc20 where
  totalSupply : Word
  balanceOf : Address → Word
  allowance : Address → Address → Word

/-- A call that both contracts have. -/
inductive Erc20Call
  | transfer (recipient : Address) (value : Word)
  | approve (spender : Address) (value : Word)
  | transferFrom (holder recipient : Address) (value : Word)
  | mint (recipient : Address) (amount : Word)
  | faucet
  deriving DecidableEq

namespace Erc20

/-- `_transfer`. -/
def transferTokens (s : Erc20) (holder recipient : Address) (value : Word) : Option Erc20 :=
  if recipient ≠ 0 ∧ value ≤ s.balanceOf holder then
    some { s with balanceOf := credit (debit s.balanceOf holder value) recipient value }
  else none

/-- `_mint`. -/
def mintTokens (s : Erc20) (recipient : Address) (amount : Word) : Option Erc20 :=
  if recipient ≠ 0 then
    some { s with
      totalSupply := s.totalSupply + amount
      balanceOf := credit s.balanceOf recipient amount }
  else none

/-- An allowance is set. -/
def setAllowance (s : Erc20) (owner spender : Address) (value : Word) : Erc20 :=
  { s with
    allowance := Function.update s.allowance owner
      (Function.update (s.allowance owner) spender value) }

/-- What the constructor leaves. -/
def deployed (initialHolder : Address) (initialSupply : Word) : Erc20 :=
  let empty : Erc20 := ⟨0, fun _ => 0, fun _ _ => 0⟩
  if initialHolder ≠ 0 ∧ 0 < initialSupply then
    (empty.mintTokens initialHolder initialSupply).getD empty
  else empty

/-- What the faucet gives: `1000 * 10 ** decimals`. -/
def faucetAmount : Word := 1000 * 10 ^ 6

/-- **A call of what both have**, if it does not revert. -/
def call (s : Erc20) (sender : Address) : Erc20Call → Option Erc20
  | .transfer recipient value => s.transferTokens sender recipient value
  | .approve spender value => some (s.setAllowance sender spender value)
  | .transferFrom holder recipient value =>
    let allowed := s.allowance holder sender
    if allowed = BitVec.allOnes 256 then s.transferTokens holder recipient value
    else if value ≤ allowed then
      (s.setAllowance holder sender (allowed - value)).transferTokens holder recipient value
    else none
  | .mint recipient amount => s.mintTokens recipient amount
  | .faucet => s.mintTokens sender faucetAmount

end Erc20

/-- `approve(address,uint256)`. -/
def approveSelector : List UInt8 := [0x09, 0x5e, 0xa7, 0xb3]

/-- `transferFrom(address,address,uint256)`. -/
def transferFromSelector : List UInt8 := [0x23, 0xb8, 0x72, 0xdd]

/-- `mint(address,uint256)`. -/
def mintSelector : List UInt8 := [0x40, 0xc1, 0x0f, 0x19]

/-- `faucet()`. -/
def faucetSelector : List UInt8 := [0xde, 0x5f, 0x72, 0xfd]

/-- `cancelAuthorization(address,bytes32,uint8,bytes32,bytes32)`. -/
def cancelSelector : List UInt8 := [0x5a, 0x04, 0x9a, 0x70]

/-- An address and a word. -/
def readPair (args : List UInt8) : Option (Address × Word) := do
  pure (← Token.addressArg args 0, ← Token.wordArg args 1)

/-- How both read a call that they have. -/
def Erc20Call.decode (data : List UInt8) : Option Erc20Call :=
  let args := data.drop 4
  if data.take 4 = Token.transferSelector then
    (readPair args).map (fun (recipient, value) => .transfer recipient value)
  else if data.take 4 = approveSelector then
    (readPair args).map (fun (spender, value) => .approve spender value)
  else if data.take 4 = transferFromSelector then do
    pure (.transferFrom (← Token.addressArg args 0) (← Token.addressArg args 1)
      (← Token.wordArg args 2))
  else if data.take 4 = mintSelector then
    (readPair args).map (fun (recipient, amount) => .mint recipient amount)
  else if data.take 4 = faucetSelector then some .faucet
  else none

/-- A transaction to a contract, in a block of some time. -/
structure Tx where
  sender : Address
  timestamp : ℕ
  data : List UInt8
  deriving DecidableEq

section Contracts

variable (keccak256 : List UInt8 → Word) (ecrecover : Word → Signature → Option Address)
  (d : Domain)

/-- The signer of a digest, which the machine gives as zero if there is none, is this account
and not zero. -/
def signedBy (digest : Word) (sig : Signature) (signer : Address) : Bool :=
  decide ((ecrecover digest sig).getD 0 ≠ 0 ∧ (ecrecover digest sig).getD 0 = signer)

/-! ## The dollar coin -/

/-- `MockUSDC`. -/
structure Usdc where
  erc20 : Erc20
  authorizationState : Address → Word → Bool

/-- A call of the dollar coin. -/
inductive UsdcCall
  | erc20 (call : Erc20Call)
  | transferWithAuthorization (holder recipient : Address)
      (value validAfter validBefore nonce : Word) (signature : Signature)
  | cancelAuthorization (authorizer : Address) (nonce : Word) (signature : Signature)
  deriving DecidableEq

/-- How the dollar coin reads a call. -/
def UsdcCall.decode (data : List UInt8) : Option UsdcCall :=
  if data.take 4 = Token.authorizationSelector then
    match Token.readAuthorization (data.drop 4) with
    | some (.transferWithAuthorization holder recipient value validAfter validBefore nonce sig) =>
      some (.transferWithAuthorization holder recipient value validAfter validBefore nonce sig)
    | _ => none
  else if data.take 4 = cancelSelector then do
    let args := data.drop 4
    pure (.cancelAuthorization (← Token.addressArg args 0) (← Token.wordArg args 1)
      ⟨← Token.uint8Arg args 2, ← Token.wordArg args 3, ← Token.wordArg args 4⟩)
  else (Erc20Call.decode data).map .erc20

/-- The digest of a cancellation. -/
def cancelDigest (authorizer : Address) (nonce : Word) : Word :=
  keccak256 (0x19 :: 0x01 :: Abi.encodeWords [(d.separator keccak256).toNat,
    (Token.hashStruct keccak256 "CancelAuthorization(address authorizer,bytes32 nonce)"
      [authorizer.toNat, nonce.toNat]).toNat])

namespace Usdc

/-- The authorization is not to be used again. -/
def useAuthorization (s : Usdc) (authorizer : Address) (nonce : Word) : Usdc :=
  { s with
    authorizationState := Function.update s.authorizationState authorizer
      (Function.update (s.authorizationState authorizer) nonce true) }

/-- **A call of the dollar coin**, if it does not revert. -/
def call (s : Usdc) (sender : Address) (timestamp : ℕ) : UsdcCall → Option Usdc
  | .erc20 c => (s.erc20.call sender c).map (fun erc20 => { s with erc20 := erc20 })
  | .transferWithAuthorization holder recipient value validAfter validBefore nonce sig =>
    if validAfter.toNat ≤ timestamp ∧ timestamp ≤ validBefore.toNat
        ∧ s.authorizationState holder nonce = false
        ∧ signedBy ecrecover ((Token.Message.transferWithAuthorization holder recipient value
            validAfter validBefore nonce).digest keccak256 d) sig holder = true
    then (s.erc20.transferTokens holder recipient value).map
      (fun erc20 => { s.useAuthorization holder nonce with erc20 := erc20 })
    else none
  | .cancelAuthorization authorizer nonce sig =>
    if s.authorizationState authorizer nonce = false
        ∧ signedBy ecrecover (cancelDigest keccak256 d authorizer nonce) sig authorizer = true
    then some (s.useAuthorization authorizer nonce)
    else none

/-- A transaction to the dollar coin, if it does not revert. -/
def execute (s : Usdc) (tx : Tx) : Option Usdc :=
  (UsdcCall.decode tx.data).bind (s.call keccak256 ecrecover d tx.sender tx.timestamp)

/-- **One transaction**: what it does, or nothing if it reverts. -/
def step (s : Usdc) (tx : Tx) : Option Usdc :=
  some ((s.execute keccak256 ecrecover d tx).getD s)

/-- What the constructor leaves. -/
def deployed (initialHolder : Address) (initialSupply : Word) : Usdc :=
  ⟨.deployed initialHolder initialSupply, fun _ _ => false⟩

end Usdc

/-! ## The tether -/

/-- `MockUSDT`. -/
structure Usdt where
  erc20 : Erc20
  nonces : Address → Word

/-- A call of the tether. -/
inductive UsdtCall
  | erc20 (call : Erc20Call)
  | executeMetaTransaction (userAddress : Address) (functionSignature : List UInt8)
      (signature : Signature)
  deriving DecidableEq

/-- How the tether reads a call. -/
def UsdtCall.decode (data : List UInt8) : Option UsdtCall :=
  if data.take 4 = Token.metaTransactionSelector then
    match Token.readMetaTransaction (data.drop 4) with
    | some (.executeMetaTransaction user functionSignature sig) =>
      some (.executeMetaTransaction user functionSignature sig)
    | _ => none
  else (Erc20Call.decode data).map .erc20

/-- What a meta-transaction may ask for, read from the bytes that were signed. -/
def innerCall (functionSignature : List UInt8) : Option Erc20Call :=
  if functionSignature.take 4 = Token.transferSelector then
    (readPair (functionSignature.drop 4)).map
      (fun (recipient, amount) => .transfer recipient amount)
  else if functionSignature.take 4 = approveSelector then
    (readPair (functionSignature.drop 4)).map (fun (spender, amount) => .approve spender amount)
  else none

namespace Usdt

/-- **A call of the tether**, if it does not revert. -/
def call (s : Usdt) (sender : Address) : UsdtCall → Option Usdt
  | .erc20 c => (s.erc20.call sender c).map (fun erc20 => { s with erc20 := erc20 })
  | .executeMetaTransaction user functionSignature sig =>
    if signedBy ecrecover ((Token.Message.metaTransaction (s.nonces user).toNat user
          functionSignature).digest keccak256 d) sig user = true
        -- the increment is checked
        ∧ s.nonces user ≠ BitVec.allOnes 256
    then (innerCall functionSignature).bind (fun c => (s.erc20.call user c).map (fun erc20 =>
      ⟨erc20, Function.update s.nonces user (s.nonces user + 1)⟩))
    else none

/-- A transaction to the tether, if it does not revert. -/
def execute (s : Usdt) (tx : Tx) : Option Usdt :=
  (UsdtCall.decode tx.data).bind (s.call keccak256 ecrecover d tx.sender)

/-- **One transaction**: what it does, or nothing if it reverts. -/
def step (s : Usdt) (tx : Tx) : Option Usdt :=
  some ((s.execute keccak256 ecrecover d tx).getD s)

/-- What the constructor leaves. -/
def deployed (initialHolder : Address) (initialSupply : Word) : Usdt :=
  ⟨.deployed initialHolder initialSupply, fun _ => 0⟩

end Usdt

end Contracts

/-! ## The supply -/

/-- What a call makes. -/
def Erc20Call.minted : Erc20Call → ℕ
  | .mint _ amount => amount.toNat
  | .faucet => Erc20.faucetAmount.toNat
  | _ => 0

namespace Erc20

variable {s s' : Erc20} {sender holder recipient : Address} {value amount : Word}

theorem transferTokens_eq_some (h : s.transferTokens holder recipient value = some s') :
    recipient ≠ 0 ∧ value ≤ s.balanceOf holder
      ∧ s' = { s with balanceOf := credit (debit s.balanceOf holder value) recipient value } := by
  unfold transferTokens at h
  split at h
  · rename_i hcan
    exact ⟨hcan.1, hcan.2, (Option.some.inj h).symm⟩
  · cases h

theorem mintTokens_eq_some (h : s.mintTokens recipient amount = some s') :
    s' = { s with
      totalSupply := s.totalSupply + amount
      balanceOf := credit s.balanceOf recipient amount } := by
  unfold mintTokens at h
  split at h
  · exact (Option.some.inj h).symm
  · cases h

/-- **What a call does to the money**: it pays, or makes some, or leaves it alone. -/
theorem call_cases {c : Erc20Call} (h : s.call sender c = some s') :
    (s'.totalSupply = s.totalSupply ∧ c.minted = 0 ∧ (s'.balanceOf = s.balanceOf
        ∨ ∃ holder recipient value, value ≤ s.balanceOf holder
          ∧ s'.balanceOf = credit (debit s.balanceOf holder value) recipient value))
      ∨ ∃ recipient amount, c.minted = BitVec.toNat amount
        ∧ s'.totalSupply = s.totalSupply + amount
        ∧ s'.balanceOf = credit s.balanceOf recipient amount := by
  cases c with
  | transfer recipient value =>
    obtain ⟨-, hle, rfl⟩ := transferTokens_eq_some h
    exact Or.inl ⟨rfl, rfl, Or.inr ⟨sender, recipient, value, hle, rfl⟩⟩
  | approve spender value =>
    obtain rfl := Option.some.inj h
    exact Or.inl ⟨rfl, rfl, Or.inl rfl⟩
  | transferFrom holder recipient value =>
    simp only [call] at h
    split at h
    · obtain ⟨-, hle, rfl⟩ := transferTokens_eq_some h
      exact Or.inl ⟨rfl, rfl, Or.inr ⟨holder, recipient, value, hle, rfl⟩⟩
    · split at h
      · obtain ⟨-, hle, rfl⟩ := transferTokens_eq_some h
        exact Or.inl ⟨rfl, rfl, Or.inr ⟨holder, recipient, value, hle, rfl⟩⟩
      · cases h
  | mint recipient amount =>
    obtain rfl := mintTokens_eq_some h
    exact Or.inr ⟨recipient, amount, rfl, rfl, rfl⟩
  | faucet =>
    obtain rfl := mintTokens_eq_some h
    exact Or.inr ⟨sender, faucetAmount, rfl, rfl, rfl⟩

/-- **The supply is the balances together**, as words. -/
def Balanced (s : Erc20) : Prop := ∑ a, s.balanceOf a = s.totalSupply

/-- **The supply is the balances together**, as numbers. -/
def Exact (s : Erc20) : Prop := ∑ a, (s.balanceOf a).toNat = s.totalSupply.toNat

theorem Balanced.call {c : Erc20Call} (hs : s.Balanced) (h : s.call sender c = some s') :
    s'.Balanced := by
  unfold Balanced at *
  obtain ⟨hsupply, -, hsame | ⟨holder, recipient, value, -, hpaid⟩⟩
    | ⟨recipient, amount, -, hsupply, hminted⟩ := call_cases h
  · rw [hsame, hs, hsupply]
  · rw [hpaid, sum_credit, sum_debit, hs, hsupply]
  · rw [hminted, sum_credit, hs, hsupply]

theorem Exact.call {c : Erc20Call} (hs : s.Exact)
    (hfits : s.totalSupply.toNat + c.minted < 2 ^ 256) (h : s.call sender c = some s') :
    s'.Exact ∧ s'.totalSupply.toNat = s.totalSupply.toNat + c.minted := by
  unfold Exact at *
  obtain ⟨hsupply, hnone, hsame | ⟨holder, recipient, value, hle, hpaid⟩⟩
    | ⟨recipient, amount, hamount, hsupply, hminted⟩ := call_cases h
  · rw [hsame, hs, hsupply, hnone]
    exact ⟨rfl, rfl⟩
  · rw [hpaid, toNat_sum_pay hle (hs ▸ s.totalSupply.isLt), hs, hsupply, hnone]
    exact ⟨rfl, rfl⟩
  · rw [hamount] at hfits ⊢
    have hexact : (s.totalSupply + amount).toNat = s.totalSupply.toNat + amount.toNat := by
      rw [BitVec.toNat_add, Nat.mod_eq_of_lt hfits]
    rw [hminted, toNat_sum_credit (hs ▸ hfits), hs, hsupply, hexact]
    exact ⟨rfl, rfl⟩

/-- The constructor leaves a supply of what the first holder has. -/
theorem deployed_cases (initialHolder : Address) (initialSupply : Word) :
    deployed initialHolder initialSupply = ⟨0, fun _ => 0, fun _ _ => 0⟩
      ∨ (⟨0, fun _ => 0, fun _ _ => 0⟩ : Erc20).call 0 (.mint initialHolder initialSupply)
        = some (deployed initialHolder initialSupply) := by
  unfold deployed
  split
  · rename_i hholder
    refine Or.inr ?_
    show mintTokens _ _ _ = _
    unfold mintTokens
    dsimp only
    rw [if_pos hholder.1]
    rfl
  · exact Or.inl rfl

theorem balanced_deployed (initialHolder : Address) (initialSupply : Word) :
    (deployed initialHolder initialSupply).Balanced := by
  have hempty : (⟨0, fun _ => 0, fun _ _ => 0⟩ : Erc20).Balanced := Finset.sum_const_zero
  rcases deployed_cases initialHolder initialSupply with hnone | hminted
  · rw [hnone]
    exact hempty
  · exact hempty.call hminted

theorem exact_deployed (initialHolder : Address) (initialSupply : Word) :
    (deployed initialHolder initialSupply).Exact := by
  have hempty : (⟨0, fun _ => 0, fun _ _ => 0⟩ : Erc20).Exact := Finset.sum_const_zero
  rcases deployed_cases initialHolder initialSupply with hnone | hminted
  · rw [hnone]
    exact hempty
  · refine (hempty.call ?_ hminted).1
    rw [show (0 : Word).toNat = 0 from rfl, Nat.zero_add]
    exact initialSupply.isLt

/-- **The supply along a run** of a contract whose transactions run a call of what both have, or
leave it alone. -/
theorem supply_of_steps {σ : Type} {step : σ → Tx → Option σ} {erc20 : σ → Erc20}
    {minted : σ → Tx → ℕ}
    (hstep : ∀ s tx t, step s tx = some t → erc20 t = erc20 s ∧ minted s tx = 0
      ∨ ∃ sender c, (erc20 s).call sender c = some (erc20 t) ∧ minted s tx = c.minted)
    {s u : σ} {txs : List Tx} (hbalanced : (erc20 s).Balanced) (hexact : (erc20 s).Exact)
    (hr : runSteps step s txs = some u) :
    (erc20 u).Balanced
      ∧ ((erc20 s).totalSupply.toNat + sumSteps step minted s txs < 2 ^ 256 → (erc20 u).Exact
        ∧ (erc20 u).totalSupply.toNat
          = (erc20 s).totalSupply.toNat + sumSteps step minted s txs) := by
  refine ⟨?_, fun hfits => ?_⟩
  · refine inv_of_run (I := fun s => (erc20 s).Balanced) (P := fun _ _ => True)
      (fun s tx t hs _ h => ?_) hbalanced (stepsMeet_of_forall (fun _ _ => trivial) s txs) hr
    obtain ⟨hsame, -⟩ | ⟨sender, c, hcall, -⟩ := hstep s tx t h
    · rw [hsame]
      exact hs
    · exact hs.call hcall
  · refine sum_of_run (I := fun s => (erc20 s).Exact)
      (v := fun s => (erc20 s).totalSupply.toNat) (fun s tx t hs hbound h => ?_) hexact hfits hr
    obtain ⟨hsame, hnone⟩ | ⟨sender, c, hcall, hminted⟩ := hstep s tx t h
    · rw [hsame, hnone]
      exact ⟨hs, rfl⟩
    · rw [hminted] at hbound ⊢
      exact hs.call hbound hcall

end Erc20

/-! ## A small tether

The child account of the small token, with 250 of a tether, and its collection of 100 by
meta-transaction. The hashes and the signature are those of the real functions, for the texts
and the digest that occur. -/

namespace SmallTether

/-- Sweeps by meta-transaction. -/
def byMetaTransaction : CollectionStrategyConfig :=
  .polygonMetaTx "(PoS) Tether USD" "1" SmallToken.relayer

/-- The tether as it was deployed. -/
def domain : Domain := ⟨"(PoS) Tether USD", "1", 1, 0x70⟩

def separator : Word := 0xa95877c4f4c16aba64cdc333abb8f70be6dd827090f17166ba5cdf48227b10a7

def transferHash : Word := 0xeb9ec8d2f69a45a31a5e5672900e6e4f70be37cfc0b7b12d8de5f236e8f4a6cb

def metaTransactionHash : Word := 0x661b93de2c13056b65fc23e9f9632c96d91dea5e5e1c19f850b47fe86c257105

def digest : Word := 0x7a33abdea323f49c085dd2b9941fbcb77e55dc608929eb2aa4b945f7754319e3

/-- The hashes of what is hashed. -/
def hashes : List (List UInt8 × Word) :=
  [(utf8 "EIP712Domain(string name,string version,address verifyingContract,bytes32 salt)",
      0x36c25de3e541d5d970f66e4210d728721220fff5c077cc6cd008b3a0c62adab7),
    (utf8 "(PoS) Tether USD", 0x88f36421421babc0bf54ddc916d4a24143221e0e60ec911df732f8942a7ddcdd),
    (utf8 "1", 0xc89efdaa54c0f20c7adf612882df0950f5a951637e0307cdcb4c672f298b8bc6),
    (Abi.encodeWords [0x36c25de3e541d5d970f66e4210d728721220fff5c077cc6cd008b3a0c62adab7,
      0x88f36421421babc0bf54ddc916d4a24143221e0e60ec911df732f8942a7ddcdd,
      0xc89efdaa54c0f20c7adf612882df0950f5a951637e0307cdcb4c672f298b8bc6, 0x70, 1], separator),
    (utf8 "MetaTransaction(uint256 nonce,address from,bytes functionSignature)",
      0x23d10def3caacba2e4042e0c75d44a42d2558aabcf5ce951d0642a8032e1e653),
    (erc20TransferData 0x7e 100, transferHash),
    (Abi.encodeWords [0x23d10def3caacba2e4042e0c75d44a42d2558aabcf5ce951d0642a8032e1e653, 0,
      SmallToken.child.toNat, transferHash.toNat], metaTransactionHash),
    (0x19 :: 0x01 :: Abi.encodeWords [separator.toNat, metaTransactionHash.toNat], digest)]

/-- `keccak256` on them. -/
def keccak256 (bytes : List UInt8) : Word :=
  ((hashes.find? (fun h => decide (h.1 = bytes))).map Prod.snd).getD 0

/-- The signature of the child account. -/
def signature : Signature :=
  ⟨27, 0xbb50e2d89a4ed70663d080659fe0ad4b9bc3e06c17a227433966cb59ceee020d,
    0x167adaf0993160b04bdf6cdac81fda4584b786d38eac904a563b36049abebac6⟩

/-- `sign_digest` on the digest. -/
def signDigest (_ _ : String) (hash : Word) : Except String Signature :=
  if hash = digest then .ok signature else .error "unknown digest"

/-- The recovery of the signer. -/
def ecrecover (hash : Word) (sig : Signature) : Option Address :=
  if hash = digest ∧ sig = signature then some SmallToken.child else none

theorem verifies : Verifies ecrecover signDigest SmallToken.job := by
  intro hash sig h
  unfold signDigest at h
  split at h
  · rename_i hdigest
    obtain rfl := Except.ok.inj h
    exact if_pos ⟨hdigest, rfl⟩
  · cases h

/-- The calldata of the collection. -/
theorem exists_calldata : ∃ data, buildCollectionCalldata keccak256 signDigest byMetaTransaction
    SmallToken.job 100 SmallToken.now = .ok data := by
  have hok : (buildCollectionCalldata keccak256 signDigest byMetaTransaction SmallToken.job 100
      SmallToken.now).toOption.isSome = true := by decide +kernel
  obtain ⟨data, hdata⟩ := Option.isSome_iff_exists.mp hok
  exact ⟨data, Except.toOption_eq_some.mp hdata⟩

end SmallTether

/-- A payment of 3 by the account 1, and one of 30 that it cannot make. -/
def someTxs : List Tx :=
  [⟨1, 0, erc20TransferData 2 3⟩, ⟨1, 0, erc20TransferData 2 30⟩, ⟨5, 0, faucetSelector⟩]

section Runs

variable {hash : List UInt8 → Word} {recover : Word → Signature → Option Address} {d : Domain}

namespace Usdc

/-- What a transaction makes, if it does not revert. -/
def minted (keccak256 : List UInt8 → Word) (ecrecover : Word → Signature → Option Address)
    (d : Domain) (s : Usdc) (tx : Tx) : ℕ :=
  match s.execute keccak256 ecrecover d tx, UsdcCall.decode tx.data with
  | some _, some (.erc20 c) => c.minted
  | _, _ => 0

/-- A transaction runs a call of what both have, or leaves it alone. -/
theorem step_erc20 (s : Usdc) (tx : Tx) (t : Usdc)
    (h : s.step hash recover d tx = some t) :
    t.erc20 = s.erc20 ∧ s.minted hash recover d tx = 0
      ∨ ∃ sender c, s.erc20.call sender c = some t.erc20
        ∧ s.minted hash recover d tx = c.minted := by
  obtain rfl := Option.some.inj h
  unfold minted
  cases hexec : s.execute hash recover d tx with
  | none => exact Or.inl ⟨rfl, rfl⟩
  | some t =>
    obtain ⟨c, hdecode, hcall⟩ := Option.bind_eq_some_iff.mp hexec
    rw [hdecode]
    cases c with
    | erc20 c =>
      obtain ⟨erc20, hc, rfl⟩ := Option.map_eq_some_iff.mp hcall
      exact Or.inr ⟨tx.sender, c, hc, rfl⟩
    | transferWithAuthorization holder recipient value validAfter validBefore nonce sig =>
      simp only [call] at hcall
      split at hcall
      · obtain ⟨erc20, hpaid, rfl⟩ := Option.map_eq_some_iff.mp hcall
        exact Or.inr ⟨holder, .transfer recipient value, hpaid, rfl⟩
      · cases hcall
    | cancelAuthorization authorizer nonce sig =>
      simp only [call] at hcall
      split at hcall
      · obtain rfl := Option.some.inj hcall
        exact Or.inl ⟨rfl, rfl⟩
      · cases hcall

/-- **The supply of the dollar coin.** After any transactions the balances together are the
supply, as words; and as numbers, with nothing lost and nothing made but what was minted, as
long as all that fits a word. -/
theorem supply_of_usdc {initialHolder : Address} {initialSupply : Word} {txs : List Tx} {u : Usdc}
    (hr : runSteps (step hash recover d) (deployed initialHolder initialSupply) txs
      = some u) :
    u.erc20.Balanced
      ∧ ((deployed initialHolder initialSupply).erc20.totalSupply.toNat
            + sumSteps (step hash recover d) (minted hash recover d)
              (deployed initialHolder initialSupply) txs < 2 ^ 256 →
          u.erc20.Exact ∧ u.erc20.totalSupply.toNat
            = (deployed initialHolder initialSupply).erc20.totalSupply.toNat
              + sumSteps (step hash recover d) (minted hash recover d)
                (deployed initialHolder initialSupply) txs) :=
  Erc20.supply_of_steps step_erc20 (Erc20.balanced_deployed _ _) (Erc20.exact_deployed _ _) hr

open SmallToken in
/-- Three transactions, one of which reverts. -/
theorem supply_of_usdcTxs : ∃ u,
    runSteps (step keccak256 ecrecover domain) (deployed 1 5) someTxs = some u
      ∧ u.erc20.Balanced
      ∧ ((deployed 1 5).erc20.totalSupply.toNat
            + sumSteps (step keccak256 ecrecover domain) (minted keccak256 ecrecover domain)
              (deployed 1 5) someTxs < 2 ^ 256 →
          u.erc20.Exact ∧ u.erc20.totalSupply.toNat
            = (deployed 1 5).erc20.totalSupply.toNat
              + sumSteps (step keccak256 ecrecover domain) (minted keccak256 ecrecover domain)
                (deployed 1 5) someTxs) :=
  ⟨_, rfl, supply_of_usdc rfl⟩

/-- The transaction uses an authorization, or cancels it, and does not revert. -/
def uses (keccak256 : List UInt8 → Word) (ecrecover : Word → Signature → Option Address)
    (d : Domain) (authorizer : Address) (nonce : Word) (s : Usdc) (tx : Tx) : Bool :=
  (s.execute keccak256 ecrecover d tx).isSome && (match UsdcCall.decode tx.data with
    | some (.transferWithAuthorization holder _ _ _ _ used _) =>
      decide (holder = authorizer ∧ used = nonce)
    | some (.cancelAuthorization holder used _) => decide (holder = authorizer ∧ used = nonce)
    | _ => false)

theorem useAuthorization_toNat {s : Usdc} {holder authorizer : Address} {used nonce : Word}
    (hfresh : s.authorizationState holder used = false) :
    ((s.useAuthorization holder used).authorizationState authorizer nonce).toNat
      = (s.authorizationState authorizer nonce).toNat
        + if decide (holder = authorizer ∧ used = nonce) then 1 else 0 := by
  unfold useAuthorization
  dsimp only
  by_cases hholder : holder = authorizer
  · subst hholder
    by_cases hnonce : used = nonce
    · subst hnonce
      rw [Function.update_self, Function.update_self, hfresh, decide_eq_true ⟨rfl, rfl⟩]
      rfl
    · rw [Function.update_self, Function.update_of_ne (Ne.symm hnonce),
        decide_eq_false (fun h => hnonce h.2)]
      rfl
  · rw [Function.update_of_ne (Ne.symm hholder), decide_eq_false (fun h => hholder h.1)]
    rfl

theorem authorizationState_step {authorizer : Address} {nonce : Word} (s : Usdc) (tx : Tx)
    (t : Usdc) (h : s.step hash recover d tx = some t) :
    (t.authorizationState authorizer nonce).toNat = (s.authorizationState authorizer nonce).toNat
      + if s.uses hash recover d authorizer nonce tx then 1 else 0 := by
  obtain rfl := Option.some.inj h
  unfold uses
  cases hexec : s.execute hash recover d tx with
  | none => rfl
  | some t =>
    obtain ⟨c, hdecode, hcall⟩ := Option.bind_eq_some_iff.mp hexec
    rw [hdecode]
    cases c with
    | erc20 c =>
      obtain ⟨erc20, -, rfl⟩ := Option.map_eq_some_iff.mp hcall
      rfl
    | transferWithAuthorization holder recipient value validAfter validBefore used sig =>
      simp only [call] at hcall
      split at hcall
      · rename_i hgood
        obtain ⟨erc20, -, rfl⟩ := Option.map_eq_some_iff.mp hcall
        exact useAuthorization_toNat hgood.2.2.1
      · cases hcall
    | cancelAuthorization holder used sig =>
      simp only [call] at hcall
      split at hcall
      · rename_i hgood
        obtain rfl := Option.some.inj hcall
        exact useAuthorization_toNat hgood.1
      · cases hcall

/-- **Authorizations are used once.** From any state, whatever transactions follow, an
authorization is marked at the end if it was at the start or one of them used or cancelled it,
and no two did. -/
theorem authorization_of_run {authorizer : Address} {nonce : Word} {s u : Usdc} {txs : List Tx}
    (hr : runSteps (step hash recover d) s txs = some u) :
    (u.authorizationState authorizer nonce).toNat = (s.authorizationState authorizer nonce).toNat
      + countSteps (step hash recover d) (uses hash recover d authorizer nonce) s
        txs :=
  count_of_run (v := fun s => (s.authorizationState authorizer nonce).toNat)
    authorizationState_step hr

open SmallToken in
/-- The same calldata twice. -/
theorem authorization_of_repeated : ∃ data u,
    buildCollectionCalldata keccak256 signDigest byAuthorization job 100 now = .ok data
      ∧ runSteps (step keccak256 ecrecover domain) (deployed child 250)
          [⟨0xbe, 1700000012, data⟩, ⟨0xbe, 1700000024, data⟩] = some u
      ∧ (u.authorizationState child (authNonce keccak256 collection.id)).toNat
        = ((deployed child 250).authorizationState child (authNonce keccak256 collection.id)).toNat
          + countSteps (step keccak256 ecrecover domain)
            (uses keccak256 ecrecover domain child (authNonce keccak256 collection.id))
            (deployed child 250)
            [⟨0xbe, 1700000012, data⟩, ⟨0xbe, 1700000024, data⟩] := by
  have hok : (buildCollectionCalldata keccak256 signDigest byAuthorization job 100
      now).toOption.isSome = true := by decide +kernel
  obtain ⟨data, hdata⟩ := Option.isSome_iff_exists.mp hok
  exact ⟨data, _, Except.toOption_eq_some.mp hdata, rfl, authorization_of_run rfl⟩

end Usdc

namespace Usdt

/-- What a transaction makes, if it does not revert. -/
def minted (keccak256 : List UInt8 → Word) (ecrecover : Word → Signature → Option Address)
    (d : Domain) (s : Usdt) (tx : Tx) : ℕ :=
  match s.execute keccak256 ecrecover d tx, UsdtCall.decode tx.data with
  | some _, some (.erc20 c) => c.minted
  | _, _ => 0

/-- A meta-transaction pays or approves, and makes nothing. -/
theorem minted_of_innerCall {functionSignature : List UInt8} {c : Erc20Call}
    (h : innerCall functionSignature = some c) : c.minted = 0 := by
  unfold innerCall at h
  split at h
  · obtain ⟨_, -, rfl⟩ := Option.map_eq_some_iff.mp h
    rfl
  · split at h
    · obtain ⟨_, -, rfl⟩ := Option.map_eq_some_iff.mp h
      rfl
    · cases h

/-- A transaction that does not revert runs a call in the name of its sender, or of a signer
whose number it counts. -/
theorem execute_cases {s t : Usdt} {tx : Tx} (h : s.execute hash recover d tx = some t) :
    (∃ c, UsdtCall.decode tx.data = some (.erc20 c) ∧ s.erc20.call tx.sender c = some t.erc20
        ∧ t.nonces = s.nonces)
      ∨ ∃ user functionSignature sig c,
        UsdtCall.decode tx.data = some (.executeMetaTransaction user functionSignature sig)
          ∧ innerCall functionSignature = some c ∧ s.erc20.call user c = some t.erc20
          ∧ s.nonces user ≠ BitVec.allOnes 256
          ∧ t.nonces = Function.update s.nonces user (s.nonces user + 1) := by
  obtain ⟨c, hdecode, hcall⟩ := Option.bind_eq_some_iff.mp h
  cases c with
  | erc20 c =>
    obtain ⟨erc20, hc, rfl⟩ := Option.map_eq_some_iff.mp hcall
    exact Or.inl ⟨c, hdecode, hc, rfl⟩
  | executeMetaTransaction user functionSignature sig =>
    simp only [call] at hcall
    split at hcall
    · rename_i hgood
      obtain ⟨c, hinner, hcall⟩ := Option.bind_eq_some_iff.mp hcall
      obtain ⟨erc20, hc, rfl⟩ := Option.map_eq_some_iff.mp hcall
      exact Or.inr ⟨user, functionSignature, sig, c, hdecode, hinner, hc, hgood.2, rfl⟩
    · cases hcall

/-- A transaction runs a call of what both have, or leaves it alone. -/
theorem step_erc20 (s : Usdt) (tx : Tx) (t : Usdt)
    (h : s.step hash recover d tx = some t) :
    t.erc20 = s.erc20 ∧ s.minted hash recover d tx = 0
      ∨ ∃ sender c, s.erc20.call sender c = some t.erc20
        ∧ s.minted hash recover d tx = c.minted := by
  obtain rfl := Option.some.inj h
  unfold minted
  cases hexec : s.execute hash recover d tx with
  | none => exact Or.inl ⟨rfl, rfl⟩
  | some t =>
    obtain ⟨c, hdecode, hc, -⟩ | ⟨user, functionSignature, sig, c, hdecode, hinner, hc, -⟩ :=
      execute_cases hexec
    · rw [hdecode]
      exact Or.inr ⟨tx.sender, c, hc, rfl⟩
    · rw [hdecode]
      exact Or.inr ⟨user, c, hc, (minted_of_innerCall hinner).symm⟩

/-- **The supply of the tether**, as that of the dollar coin: meta-transactions make nothing
either. -/
theorem supply_of_usdt {initialHolder : Address} {initialSupply : Word} {txs : List Tx} {u : Usdt}
    (hr : runSteps (step hash recover d) (deployed initialHolder initialSupply) txs
      = some u) :
    u.erc20.Balanced
      ∧ ((deployed initialHolder initialSupply).erc20.totalSupply.toNat
            + sumSteps (step hash recover d) (minted hash recover d)
              (deployed initialHolder initialSupply) txs < 2 ^ 256 →
          u.erc20.Exact ∧ u.erc20.totalSupply.toNat
            = (deployed initialHolder initialSupply).erc20.totalSupply.toNat
              + sumSteps (step hash recover d) (minted hash recover d)
                (deployed initialHolder initialSupply) txs) :=
  Erc20.supply_of_steps step_erc20 (Erc20.balanced_deployed _ _) (Erc20.exact_deployed _ _) hr

open SmallToken in
/-- The same transactions with the tether. -/
theorem supply_of_usdtTxs : ∃ u,
    runSteps (step keccak256 ecrecover domain) (deployed 1 5) someTxs = some u
      ∧ u.erc20.Balanced
      ∧ ((deployed 1 5).erc20.totalSupply.toNat
            + sumSteps (step keccak256 ecrecover domain) (minted keccak256 ecrecover domain)
              (deployed 1 5) someTxs < 2 ^ 256 →
          u.erc20.Exact ∧ u.erc20.totalSupply.toNat
            = (deployed 1 5).erc20.totalSupply.toNat
              + sumSteps (step keccak256 ecrecover domain) (minted keccak256 ecrecover domain)
                (deployed 1 5) someTxs) :=
  ⟨_, rfl, supply_of_usdt rfl⟩

/-- The transaction is a meta-transaction of the user, and does not revert. -/
def executesFor (keccak256 : List UInt8 → Word) (ecrecover : Word → Signature → Option Address)
    (d : Domain) (user : Address) (s : Usdt) (tx : Tx) : Bool :=
  (s.execute keccak256 ecrecover d tx).isSome && (match UsdtCall.decode tx.data with
    | some (.executeMetaTransaction signer _ _) => decide (signer = user)
    | _ => false)

/-- It is one that was signed for this number. -/
def executesAt (keccak256 : List UInt8 → Word) (ecrecover : Word → Signature → Option Address)
    (d : Domain) (user : Address) (nonce : ℕ) (s : Usdt) (tx : Tx) : Bool :=
  s.executesFor keccak256 ecrecover d user tx && decide ((s.nonces user).toNat = nonce)

/-- **A meta-transaction counts its signer on** by one. -/
theorem nonces_step {user : Address} (s : Usdt) (tx : Tx) (t : Usdt)
    (h : s.step hash recover d tx = some t) :
    (t.nonces user).toNat = (s.nonces user).toNat
      + if s.executesFor hash recover d user tx then 1 else 0 := by
  obtain rfl := Option.some.inj h
  unfold executesFor
  cases hexec : s.execute hash recover d tx with
  | none => rfl
  | some t =>
    obtain ⟨c, hdecode, -, hsame⟩ | ⟨signer, functionSignature, sig, c, hdecode, -, -, hroom,
      hcounted⟩ := execute_cases hexec
    · rw [hdecode, Option.getD_some, hsame]
      rfl
    · rw [hdecode, Option.getD_some, hcounted]
      by_cases hsigner : signer = user
      · subst hsigner
        have hlt : (s.nonces signer).toNat + 1 < 2 ^ 256 := by
          have hne : (s.nonces signer).toNat ≠ 2 ^ 256 - 1 := fun heq =>
            hroom (BitVec.eq_of_toNat_eq (heq.trans BitVec.toNat_allOnes.symm))
          have hbound := (s.nonces signer).isLt
          omega
        rw [Function.update_self, BitVec.toNat_add, show (1 : Word).toNat = 1 from rfl,
          Nat.mod_eq_of_lt hlt]
        simp
      · rw [Function.update_of_ne (Ne.symm hsigner)]
        simp [hsigner]

/-- **Meta-transactions run once, in order.** From any state, whatever transactions follow, the
number of a user is counted on by one for each meta-transaction of that user that does not
revert, and for each number there is one such if and only if the number was passed. -/
theorem nonces_of_run {user : Address} {s u : Usdt} {txs : List Tx}
    (hr : runSteps (step hash recover d) s txs = some u) :
    (u.nonces user).toNat = (s.nonces user).toNat
        + countSteps (step hash recover d) (executesFor hash recover d user) s txs
      ∧ ∀ nonce, (if nonce < (u.nonces user).toNat then 1 else 0)
        = (if nonce < (s.nonces user).toNat then 1 else 0)
          + countSteps (step hash recover d) (executesAt hash recover d user nonce)
            s txs := by
  refine ⟨count_of_run (v := fun s => (s.nonces user).toNat) nonces_step hr, fun nonce => ?_⟩
  refine count_of_run (v := fun s : Usdt => if nonce < (s.nonces user).toNat then 1 else 0)
    (fun s tx t h => ?_) hr
  have hcount : (t.nonces user).toNat = (s.nonces user).toNat
      + if s.executesFor hash recover d user tx then 1 else 0 := nonces_step s tx t h
  unfold executesAt
  cases hmark : s.executesFor hash recover d user tx with
  | false =>
    rw [hmark] at hcount
    rw [hcount]
    rfl
  | true =>
    rw [hmark] at hcount
    rw [hcount, Bool.true_and]
    by_cases heq : (s.nonces user).toNat = nonce
    · simp [heq]
    · have hiff : nonce < (s.nonces user).toNat + 1 ↔ nonce < (s.nonces user).toNat := by omega
      simp [heq, hiff]

open SmallTether in
/-- The same calldata twice. -/
theorem nonces_of_repeated : ∃ data u,
    buildCollectionCalldata keccak256 signDigest byMetaTransaction SmallToken.job 100
        SmallToken.now = .ok data
      ∧ runSteps (step keccak256 ecrecover domain) (deployed SmallToken.child 250)
          [⟨0xbe, 1700000012, data⟩, ⟨0xbe, 1700000024, data⟩] = some u
      ∧ (u.nonces SmallToken.child).toNat
        = ((deployed SmallToken.child 250).nonces SmallToken.child).toNat
          + countSteps (step keccak256 ecrecover domain)
            (executesFor keccak256 ecrecover domain SmallToken.child)
            (deployed SmallToken.child 250)
            [⟨0xbe, 1700000012, data⟩, ⟨0xbe, 1700000024, data⟩]
      ∧ ∀ nonce, (if nonce < (u.nonces SmallToken.child).toNat then 1 else 0)
        = (if nonce < ((deployed SmallToken.child 250).nonces SmallToken.child).toNat then 1 else 0)
          + countSteps (step keccak256 ecrecover domain)
            (executesAt keccak256 ecrecover domain SmallToken.child nonce)
            (deployed SmallToken.child 250)
            [⟨0xbe, 1700000012, data⟩, ⟨0xbe, 1700000024, data⟩] := by
  obtain ⟨data, hdata⟩ := exists_calldata
  exact ⟨data, _, hdata, rfl, nonces_of_run rfl⟩

end Usdt

end Runs

end Mock
