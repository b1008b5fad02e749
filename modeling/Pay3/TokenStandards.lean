import Pay3.Abi
import Mathlib.Logic.Function.Basic

/-!
# Tokens that take signatures

A token contract as the standards describe it: `transfer` of ERC-20, which the
sender pays; `transferWithAuthorization` of EIP-3009, which the signer of the
authorization pays; `executeMetaTransaction`, which runs a call in the name of
its signer; and `permit` of EIP-2612, which records how much somebody else may
later take and moves nothing.

A signature is over an EIP-712 digest that the contract computes itself: from
the arguments of the call and, for a meta-transaction or a permit, from the
number of those the signer had executed before. An authorization carries a
number of its signer's choice, and each is taken once.

The hash function and the recovery of a signer are parameters. Balances are
natural numbers: all of them together are the supply, which fits a word.
-/

namespace Token

/-- An account of the chain. -/
abbrev Address := BitVec 160

/-- A word of the machine. -/
abbrev Word := BitVec 256

/-- A signature over a digest. -/
structure Signature where
  v : UInt8
  r : Word
  s : Word
  deriving DecidableEq

/-- What a contract was deployed as. -/
structure Domain where
  name : String
  version : String
  chainId : ℕ
  verifyingContract : Address
  deriving DecidableEq

/-! ## Typed data -/

/-- **What a holder signs.** -/
inductive Message
  | transferWithAuthorization (holder recipient : Address)
      (value validAfter validBefore nonce : Word)
  | metaTransaction (nonce : ℕ) (user : Address) (functionSignature : List UInt8)
  | permit (owner spender : Address) (value : Word) (nonce : ℕ) (deadline : Word)
  deriving DecidableEq

section Hashing

variable (keccak256 : List UInt8 → Word)

/-- The hash of a structure whose members take a word each. -/
def hashStruct (typeText : String) (members : List ℕ) : Word :=
  keccak256 (Abi.encodeWords ((keccak256 (utf8 typeText)).toNat :: members))

/-- The separator of a domain. -/
def Domain.separator (d : Domain) : Word :=
  hashStruct keccak256
    "EIP712Domain(string name,string version,uint256 chainId,address verifyingContract)"
    [(keccak256 (utf8 d.name)).toNat, (keccak256 (utf8 d.version)).toNat, d.chainId,
      d.verifyingContract.toNat]

/-- The separator of a domain whose chain is its salt. -/
def Domain.saltSeparator (d : Domain) : Word :=
  hashStruct keccak256
    "EIP712Domain(string name,string version,address verifyingContract,bytes32 salt)"
    [(keccak256 (utf8 d.name)).toNat, (keccak256 (utf8 d.version)).toNat,
      d.verifyingContract.toNat, d.chainId]

namespace Message

/-- The hash of a message. -/
def structHash : Message → Word
  | .transferWithAuthorization holder recipient value validAfter validBefore nonce =>
    hashStruct keccak256 ("TransferWithAuthorization(address from,address to,uint256 value,"
        ++ "uint256 validAfter,uint256 validBefore,bytes32 nonce)")
      [holder.toNat, recipient.toNat, value.toNat, validAfter.toNat, validBefore.toNat, nonce.toNat]
  | .metaTransaction nonce user functionSignature =>
    hashStruct keccak256 "MetaTransaction(uint256 nonce,address from,bytes functionSignature)"
      [nonce, user.toNat, (keccak256 functionSignature).toNat]
  | .permit owner spender value nonce deadline =>
    hashStruct keccak256
      "Permit(address owner,address spender,uint256 value,uint256 nonce,uint256 deadline)"
      [owner.toNat, spender.toNat, value.toNat, nonce, deadline.toNat]

/-- The separator of the domain a message is for. -/
def separator (d : Domain) : Message → Word
  | .metaTransaction _ _ _ => d.saltSeparator keccak256
  | _ => d.separator keccak256

/-- **The digest that is signed.** -/
def digest (d : Domain) (m : Message) : Word :=
  keccak256 (0x19 :: 0x01 :: Abi.encodeWords
    [(m.separator keccak256 d).toNat, (m.structHash keccak256).toNat])

end Message

end Hashing

/-! ## Calls -/

/-- **A call of the contract.** -/
inductive Call
  | transfer (recipient : Address) (value : Word)
  | transferWithAuthorization (holder recipient : Address)
      (value validAfter validBefore nonce : Word) (signature : Signature)
  | executeMetaTransaction (user : Address) (functionSignature : List UInt8)
      (signature : Signature)
  | permit (owner spender : Address) (value deadline : Word) (signature : Signature)
  deriving DecidableEq

/-- `transfer(address,uint256)`. -/
def transferSelector : List UInt8 := [0xa9, 0x05, 0x9c, 0xbb]

/-- `transferWithAuthorization` with the parts of the signature as arguments. -/
def authorizationSelector : List UInt8 := [0xe3, 0xee, 0x16, 0x0e]

/-- `executeMetaTransaction(address,bytes,bytes32,bytes32,uint8)`. -/
def metaTransactionSelector : List UInt8 := [0x0c, 0x53, 0xc5, 0x1c]

/-- `permit(address,address,uint256,uint256,uint8,bytes32,bytes32)`. -/
def permitSelector : List UInt8 := [0xd5, 0x05, 0xac, 0xcf]

/-- **The bytes of a call**, less the padding after bytes of variable length. -/
def Call.encode : Call → List UInt8
  | .transfer recipient value =>
    transferSelector ++ Abi.encodeWords [recipient.toNat, value.toNat]
  | .transferWithAuthorization holder recipient value validAfter validBefore nonce sig =>
    authorizationSelector ++ Abi.encodeWords [holder.toNat, recipient.toNat, value.toNat,
      validAfter.toNat, validBefore.toNat, nonce.toNat, sig.v.toNat, sig.r.toNat, sig.s.toNat]
  | .executeMetaTransaction user functionSignature sig =>
    metaTransactionSelector ++ (Abi.encodeWords [user.toNat, 160, sig.r.toNat, sig.s.toNat,
      sig.v.toNat, functionSignature.length] ++ functionSignature)
  | .permit owner spender value deadline sig =>
    permitSelector ++ Abi.encodeWords [owner.toNat, spender.toNat, value.toNat, deadline.toNat,
      sig.v.toNat, sig.r.toNat, sig.s.toNat]

/-- An argument that is a word. -/
def wordArg (args : List UInt8) (k : ℕ) : Option Word := (Abi.arg args k).map (BitVec.ofNat 256)

/-- An argument that is an address. -/
def addressArg (args : List UInt8) (k : ℕ) : Option Address :=
  (Abi.arg args k).bind (fun w => if w < 2 ^ 160 then some (BitVec.ofNat 160 w) else none)

/-- An argument that is a byte. -/
def uint8Arg (args : List UInt8) (k : ℕ) : Option UInt8 :=
  (Abi.arg args k).bind (fun w => if w < 2 ^ 8 then some (UInt8.ofNat w) else none)

/-- An argument of variable length. -/
def bytesArg (args : List UInt8) (k : ℕ) : Option (List UInt8) :=
  (Abi.arg args k).bind (Abi.bytesAt args)

/-- The arguments of `transfer`. -/
def readTransfer (args : List UInt8) : Option Call := do
  pure (.transfer (← addressArg args 0) (← wordArg args 1))

/-- The arguments of `transferWithAuthorization`. -/
def readAuthorization (args : List UInt8) : Option Call := do
  pure (.transferWithAuthorization (← addressArg args 0) (← addressArg args 1)
    (← wordArg args 2) (← wordArg args 3) (← wordArg args 4) (← wordArg args 5)
    ⟨← uint8Arg args 6, ← wordArg args 7, ← wordArg args 8⟩)

/-- The arguments of `executeMetaTransaction`. -/
def readMetaTransaction (args : List UInt8) : Option Call := do
  pure (.executeMetaTransaction (← addressArg args 0) (← bytesArg args 1)
    ⟨← uint8Arg args 4, ← wordArg args 2, ← wordArg args 3⟩)

/-- The arguments of `permit`. -/
def readPermit (args : List UInt8) : Option Call := do
  pure (.permit (← addressArg args 0) (← addressArg args 1) (← wordArg args 2)
    (← wordArg args 3) ⟨← uint8Arg args 4, ← wordArg args 5, ← wordArg args 6⟩)

/-- **How a contract reads a call.** -/
def decode (data : List UInt8) : Option Call :=
  if data.take 4 = transferSelector then readTransfer (data.drop 4)
  else if data.take 4 = authorizationSelector then readAuthorization (data.drop 4)
  else if data.take 4 = metaTransactionSelector then readMetaTransaction (data.drop 4)
  else if data.take 4 = permitSelector then readPermit (data.drop 4)
  else none

section Reading

variable (before after : List ℕ) (rest : List UInt8)

theorem wordArg_encodeWords (w : Word) :
    wordArg (Abi.encodeWords (before ++ w.toNat :: after) ++ rest) before.length = some w := by
  unfold wordArg
  rw [Abi.arg_encodeWords rest w.isLt, Option.map_some, BitVec.ofNat_toNat, BitVec.setWidth_eq]

theorem addressArg_encodeWords (a : Address) :
    addressArg (Abi.encodeWords (before ++ a.toNat :: after) ++ rest) before.length = some a := by
  unfold addressArg
  rw [Abi.arg_encodeWords rest (lt_trans a.isLt (by decide)), Option.bind_some, if_pos a.isLt,
    BitVec.ofNat_toNat, BitVec.setWidth_eq]

theorem uint8Arg_encodeWords (b : UInt8) :
    uint8Arg (Abi.encodeWords (before ++ b.toNat :: after) ++ rest) before.length = some b := by
  unfold uint8Arg
  rw [Abi.arg_encodeWords rest (lt_trans b.toNat_lt (by decide)), Option.bind_some,
    if_pos b.toNat_lt, UInt8.ofNat_toNat]

end Reading

section Selectors

variable (args : List UInt8)

theorem decode_transferSelector : decode (transferSelector ++ args) = readTransfer args := by
  unfold decode
  rw [show (transferSelector ++ args).take 4 = transferSelector from rfl, if_pos rfl]
  rfl

theorem decode_authorizationSelector :
    decode (authorizationSelector ++ args) = readAuthorization args := by
  unfold decode
  rw [show (authorizationSelector ++ args).take 4 = authorizationSelector from rfl,
    if_neg (by decide), if_pos rfl]
  rfl

theorem decode_metaTransactionSelector :
    decode (metaTransactionSelector ++ args) = readMetaTransaction args := by
  unfold decode
  rw [show (metaTransactionSelector ++ args).take 4 = metaTransactionSelector from rfl,
    if_neg (by decide), if_neg (by decide), if_pos rfl]
  rfl

theorem decode_permitSelector : decode (permitSelector ++ args) = readPermit args := by
  unfold decode
  rw [show (permitSelector ++ args).take 4 = permitSelector from rfl, if_neg (by decide),
    if_neg (by decide), if_neg (by decide), if_pos rfl]
  rfl

end Selectors

/-- The bytes of variable length after five words are read back. -/
theorem bytesArg_encode {a b c d : ℕ} {bytes rest : List UInt8} (h : bytes.length < 2 ^ 256) :
    bytesArg (Abi.encodeWords [a, 160, b, c, d, bytes.length] ++ (bytes ++ rest)) 1
      = some bytes := by
  have hoffset : Abi.arg (Abi.encodeWords [a, 160, b, c, d, bytes.length] ++ (bytes ++ rest)) 1
      = some 160 :=
    @Abi.arg_encodeWords [a] [b, c, d, bytes.length] 160 _ (by decide)
  have hbytes := @Abi.bytesAt_append (Abi.encodeWords [a, 160, b, c, d]) bytes rest h
  rw [Abi.length_encodeWords] at hbytes
  have hdata : Abi.encodeWords [a, 160, b, c, d, bytes.length] ++ (bytes ++ rest)
      = Abi.encodeWords [a, 160, b, c, d] ++ (Abi.toBytes 32 bytes.length ++ (bytes ++ rest)) := by
    simp only [Abi.encodeWords_cons, Abi.encodeWords_nil, List.append_assoc, List.append_nil]
  unfold bytesArg
  rw [hoffset, hdata, Option.bind_some]
  exact hbytes

/-- A step of reading that finds its argument. -/
theorem read_step {α β : Type} {x : Option α} {f : α → Option β} {a : α} {b : β} (hx : x = some a)
    (hf : f a = some b) : (x >>= f) = some b :=
  Option.bind_eq_some_iff.mpr ⟨a, hx, hf⟩

/-- **A call is read back**, whatever follows it. -/
theorem decode_encode (c : Call) (rest : List UInt8)
    (h : ∀ user functionSignature sig, c = .executeMetaTransaction user functionSignature sig →
      functionSignature.length < 2 ^ 256) :
    decode (c.encode ++ rest) = some c := by
  cases c with
  | transfer recipient value =>
    rw [Call.encode, List.append_assoc, decode_transferSelector]
    refine read_step (addressArg_encodeWords [] _ rest recipient) ?_
    exact read_step (wordArg_encodeWords [_] _ rest value) rfl
  | transferWithAuthorization holder recipient value validAfter validBefore nonce sig =>
    rw [Call.encode, List.append_assoc, decode_authorizationSelector]
    refine read_step (addressArg_encodeWords [] _ rest holder) ?_
    refine read_step (addressArg_encodeWords [_] _ rest recipient) ?_
    refine read_step (wordArg_encodeWords [_, _] _ rest value) ?_
    refine read_step (wordArg_encodeWords [_, _, _] _ rest validAfter) ?_
    refine read_step (wordArg_encodeWords [_, _, _, _] _ rest validBefore) ?_
    refine read_step (wordArg_encodeWords [_, _, _, _, _] _ rest nonce) ?_
    refine read_step (uint8Arg_encodeWords [_, _, _, _, _, _] _ rest sig.v) ?_
    refine read_step (wordArg_encodeWords [_, _, _, _, _, _, _] _ rest sig.r) ?_
    exact read_step (wordArg_encodeWords [_, _, _, _, _, _, _, _] _ rest sig.s) rfl
  | executeMetaTransaction user functionSignature sig =>
    have hlength := h user functionSignature sig rfl
    rw [Call.encode, List.append_assoc, List.append_assoc, decode_metaTransactionSelector]
    refine read_step (addressArg_encodeWords [] _ _ user) ?_
    refine read_step (bytesArg_encode hlength) ?_
    refine read_step (uint8Arg_encodeWords [_, _, _, _] _ _ sig.v) ?_
    refine read_step (wordArg_encodeWords [_, _] _ _ sig.r) ?_
    exact read_step (wordArg_encodeWords [_, _, _] _ _ sig.s) rfl
  | permit owner spender value deadline sig =>
    rw [Call.encode, List.append_assoc, decode_permitSelector]
    refine read_step (addressArg_encodeWords [] _ rest owner) ?_
    refine read_step (addressArg_encodeWords [_] _ rest spender) ?_
    refine read_step (wordArg_encodeWords [_, _] _ rest value) ?_
    refine read_step (wordArg_encodeWords [_, _, _] _ rest deadline) ?_
    refine read_step (uint8Arg_encodeWords [_, _, _, _] _ rest sig.v) ?_
    refine read_step (wordArg_encodeWords [_, _, _, _, _] _ rest sig.r) ?_
    exact read_step (wordArg_encodeWords [_, _, _, _, _, _] _ rest sig.s) rfl

/-! ## The contract -/

/-- **What the contract keeps.** -/
structure State where
  balances : Address → ℕ
  allowances : Address → Address → ℕ
  authorizationUsed : Address → Word → Bool
  metaNonces : Address → ℕ
  permitNonces : Address → ℕ

namespace State

/-- A payment, if the payer has as much. -/
def move (s : State) (holder recipient : Address) (value : ℕ) : Option State :=
  if value ≤ s.balances holder then
    let debited := Function.update s.balances holder (s.balances holder - value)
    some { s with balances := Function.update debited recipient (debited recipient + value) }
  else none

/-- An authorization is taken. -/
def useAuthorization (s : State) (holder : Address) (nonce : Word) : State :=
  { s with
    authorizationUsed := Function.update s.authorizationUsed holder
      (Function.update (s.authorizationUsed holder) nonce true) }

/-- A meta-transaction is counted. -/
def countMetaTransaction (s : State) (user : Address) : State :=
  { s with metaNonces := Function.update s.metaNonces user (s.metaNonces user + 1) }

/-- A permit is counted, and the allowance set. -/
def approve (s : State) (owner spender : Address) (value : ℕ) : State :=
  { s with
    permitNonces := Function.update s.permitNonces owner (s.permitNonces owner + 1)
    allowances := Function.update s.allowances owner
      (Function.update (s.allowances owner) spender value) }

end State

section Contract

variable (keccak256 : List UInt8 → Word) (ecrecover : Word → Signature → Option Address)
  (d : Domain) (blockTime : ℕ)

/-- The message was signed by an account. -/
def Signed (m : Message) (sig : Signature) (signer : Address) : Prop :=
  ecrecover (m.digest keccak256 d) sig = some signer

instance (m : Message) (sig : Signature) (signer : Address) :
    Decidable (Signed keccak256 ecrecover d m sig signer) :=
  inferInstanceAs (Decidable (_ = _))

/-- **One call**, in the name of its sender; a meta-transaction runs no other. -/
def State.call (s : State) (sender : Address) : Call → Option State
  | .transfer recipient value => s.move sender recipient value.toNat
  | .transferWithAuthorization holder recipient value validAfter validBefore nonce sig =>
    if validAfter.toNat < blockTime ∧ blockTime < validBefore.toNat
        ∧ s.authorizationUsed holder nonce = false
        ∧ Signed keccak256 ecrecover d
          (.transferWithAuthorization holder recipient value validAfter validBefore nonce) sig holder
    then (s.useAuthorization holder nonce).move holder recipient value.toNat
    else none
  | .permit owner spender value deadline sig =>
    if blockTime ≤ deadline.toNat
        ∧ Signed keccak256 ecrecover d (.permit owner spender value (s.permitNonces owner) deadline)
          sig owner
    then some (s.approve owner spender value.toNat)
    else none
  | .executeMetaTransaction _ _ _ => none

/-- **A transaction to the contract**, if it does not revert. The call of a
meta-transaction has the user behind its bytes. -/
def State.execute (s : State) (sender : Address) (data : List UInt8) : Option State :=
  (decode data).bind (fun
    | .executeMetaTransaction user functionSignature sig =>
      if Signed keccak256 ecrecover d (.metaTransaction (s.metaNonces user) user functionSignature)
          sig user
      then (decode (functionSignature ++ Abi.toBytes 20 user.toNat)).bind
        ((s.countMetaTransaction user).call keccak256 ecrecover d blockTime user)
      else none
    | c => s.call keccak256 ecrecover d blockTime sender c)

end Contract

/-! ## What a transaction changes -/

namespace State

variable {keccak256 : List UInt8 → Word} {ecrecover : Word → Signature → Option Address}
  {d : Domain} {blockTime : ℕ} {s s' : State} {sender : Address}

/-- A payment takes from one and gives to the other. -/
theorem move_eq_some {holder recipient : Address} {value : ℕ} (hvalue : value ≤ s.balances holder) :
    ∃ s', s.move holder recipient value = some s'
      ∧ (holder ≠ recipient → s'.balances holder + value = s.balances holder
        ∧ s'.balances recipient = s.balances recipient + value)
      ∧ (holder = recipient → s'.balances = s.balances) := by
  unfold move
  rw [if_pos hvalue]
  refine ⟨_, rfl, fun hne => ⟨?_, ?_⟩, fun heq => ?_⟩
  · dsimp only
    rw [Function.update_of_ne hne, Function.update_self]
    omega
  · dsimp only
    rw [Function.update_self, Function.update_of_ne hne.symm]
  · subst heq
    dsimp only
    rw [Function.update_self, Function.update_idem, Nat.sub_add_cancel hvalue,
      Function.update_eq_self]

/-- It changes no more than balances. -/
theorem of_move {holder recipient : Address} {value : ℕ}
    (h : s.move holder recipient value = some s') :
    s'.authorizationUsed = s.authorizationUsed ∧ s'.metaNonces = s.metaNonces
      ∧ s'.permitNonces = s.permitNonces := by
  unfold move at h
  split at h
  · obtain rfl := Option.some.inj h
    exact ⟨rfl, rfl, rfl⟩
  · cases h

/-- **What a transaction runs**: its call, or the call of a meta-transaction. -/
theorem execute_cases {data : List UInt8}
    (h : s.execute keccak256 ecrecover d blockTime sender data = some s') :
    (∃ c, decode data = some c ∧ s.call keccak256 ecrecover d blockTime sender c = some s')
      ∨ ∃ user functionSignature sig c,
        decode data = some (.executeMetaTransaction user functionSignature sig)
        ∧ (s.countMetaTransaction user).call keccak256 ecrecover d blockTime user c = some s' := by
  obtain ⟨c, hc, h⟩ := Option.bind_eq_some_iff.mp h
  cases c with
  | executeMetaTransaction user functionSignature sig =>
    dsimp only at h
    split at h
    · obtain ⟨inner, -, h⟩ := Option.bind_eq_some_iff.mp h
      exact Or.inr ⟨user, functionSignature, sig, inner, hc, h⟩
    · cases h
  | _ => exact Or.inl ⟨_, hc, h⟩

/-- A call gives no authorization back. -/
theorem used_of_call {c : Call} (h : s.call keccak256 ecrecover d blockTime sender c = some s')
    {holder : Address} {nonce : Word} (hused : s.authorizationUsed holder nonce = true) :
    s'.authorizationUsed holder nonce = true := by
  cases c with
  | transfer recipient value =>
    rw [(of_move h).1]
    exact hused
  | transferWithAuthorization payer recipient value validAfter validBefore n sig =>
    rw [call] at h
    split at h
    · rw [(of_move h).1]
      show Function.update s.authorizationUsed payer _ holder nonce = true
      by_cases hp : holder = payer
      · subst hp
        rw [Function.update_self]
        by_cases hn : nonce = n
        · rw [hn, Function.update_self]
        · rw [Function.update_of_ne hn]
          exact hused
      · rw [Function.update_of_ne hp]
        exact hused
    · cases h
  | executeMetaTransaction user functionSignature sig => cases h
  | permit owner spender value deadline sig =>
    rw [call] at h
    split at h
    · obtain rfl := Option.some.inj h
      exact hused
    · cases h

/-- **No transaction gives an authorization back.** -/
theorem used_of_execute {data : List UInt8}
    (h : s.execute keccak256 ecrecover d blockTime sender data = some s') {holder : Address}
    {nonce : Word} (hused : s.authorizationUsed holder nonce = true) :
    s'.authorizationUsed holder nonce = true := by
  rcases execute_cases h with ⟨c, -, hcall⟩ | ⟨user, functionSignature, sig, c, -, hcall⟩
  · exact used_of_call hcall hused
  · exact used_of_call hcall hused

end State

/-- The authorization a transaction carries. -/
def authorization? (data : List UInt8) : Option (Address × Word) :=
  (decode data).bind (fun
    | .transferWithAuthorization holder _ _ _ _ nonce _ => some (holder, nonce)
    | _ => none)

namespace State

variable {keccak256 : List UInt8 → Word} {ecrecover : Word → Signature → Option Address}
  {d : Domain} {blockTime : ℕ} {s s' : State} {sender : Address}

/-- **A transaction with an authorization is executed when the authorization was
not used**, and uses it. -/
theorem authorization_of_execute {data : List UInt8}
    (h : s.execute keccak256 ecrecover d blockTime sender data = some s') {holder : Address}
    {nonce : Word} (hdata : authorization? data = some (holder, nonce)) :
    s.authorizationUsed holder nonce = false ∧ s'.authorizationUsed holder nonce = true := by
  obtain ⟨c, hc, hauth⟩ := Option.bind_eq_some_iff.mp hdata
  cases c with
  | transferWithAuthorization payer recipient value validAfter validBefore n sig =>
    obtain ⟨rfl, rfl⟩ := Prod.mk.inj (Option.some.inj hauth)
    have hcall : s.call keccak256 ecrecover d blockTime sender
        (.transferWithAuthorization payer recipient value validAfter validBefore n sig)
          = some s' := by
      unfold execute at h
      rw [hc] at h
      exact h
    rw [call] at hcall
    split at hcall
    · rename_i hcond
      refine ⟨hcond.2.2.1, ?_⟩
      rw [(of_move hcall).1]
      show Function.update s.authorizationUsed payer _ payer n = true
      rw [Function.update_self, Function.update_self]
    · cases hcall
  | _ => cases hauth

end State

/-! ## Transactions one after the other -/

/-- A transaction, and the time of the block that mines it. -/
structure Transaction where
  sender : Address
  data : List UInt8
  blockTime : ℕ
  deriving DecidableEq

section Runs

variable (keccak256 : List UInt8 → Word) (ecrecover : Word → Signature → Option Address)
  (d : Domain)

/-- The transactions that do not revert, when they are mined in this order. A
transaction that reverts leaves the contract as it was. -/
def executed (s : State) : List Transaction → List Transaction
  | [] => []
  | tx :: rest =>
    match s.execute keccak256 ecrecover d tx.blockTime tx.sender tx.data with
    | some s' => tx :: executed s' rest
    | none => executed s rest

variable {keccak256 ecrecover d}

/-- No transaction with a used authorization is executed. -/
theorem countP_executed_of_used {holder : Address} {nonce : Word} {txs : List Transaction}
    {s : State} (hused : s.authorizationUsed holder nonce = true) :
    (executed keccak256 ecrecover d s txs).countP
      (fun tx => decide (authorization? tx.data = some (holder, nonce))) = 0 := by
  induction txs generalizing s with
  | nil => rfl
  | cons tx rest ih =>
    unfold executed
    split
    · rename_i s' hexec
      rw [List.countP_cons_of_neg, ih (State.used_of_execute hexec hused)]
      intro hauth
      have hfresh := (State.authorization_of_execute hexec (of_decide_eq_true hauth)).1
      rw [hused] at hfresh
      cases hfresh
    · exact ih hused

/-- **An authorization is executed once at most**, whatever else is mined and in
whatever order. -/
theorem countP_executed_le_one (holder : Address) (nonce : Word) (txs : List Transaction)
    (s : State) :
    (executed keccak256 ecrecover d s txs).countP
      (fun tx => decide (authorization? tx.data = some (holder, nonce))) ≤ 1 := by
  induction txs generalizing s with
  | nil => exact Nat.zero_le 1
  | cons tx rest ih =>
    unfold executed
    split
    · rename_i s' hexec
      by_cases hauth : authorization? tx.data = some (holder, nonce)
      · have hused := (State.authorization_of_execute hexec hauth).2
        rw [List.countP_cons, countP_executed_of_used hused, if_pos (decide_eq_true hauth)]
      · rw [List.countP_cons_of_neg (by simpa using hauth)]
        exact ih s'
    · exact ih s

end Runs

end Token
