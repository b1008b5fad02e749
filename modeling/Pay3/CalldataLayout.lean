import Pay3.AbiTuples
import Pay3.Permit

/-!
# The calls are laid out as arguments

The program writes the calls of a token out word by word. Each of them is a selector and
the layout of its arguments: the words are in the order of the declaration, the offset of
`functionSignature` leads to its length, and the bytes are filled up to a word. So a
contract that reads them by the declared kinds finds exactly what was written, and the
data of a call is four bytes and whole words.
-/

/-- `transfer(address,uint256)`. -/
def transferKinds : List Abi.Kind := [.address, .uint256]

/-- `transferWithAuthorization(address,address,uint256,uint256,uint256,bytes32,uint8,bytes32,bytes32)`. -/
def authorizationKinds : List Abi.Kind :=
  [.address, .address, .uint256, .uint256, .uint256, .bytes32, .uint8, .bytes32, .bytes32]

/-- `executeMetaTransaction(address,bytes,bytes32,bytes32,uint8)`. -/
def metaTransactionKinds : List Abi.Kind := [.address, .bytes, .bytes32, .bytes32, .uint8]

/-- `permit(address,address,uint256,uint256,uint8,bytes32,bytes32)`. -/
def permitKinds : List Abi.Kind :=
  [.address, .address, .uint256, .uint256, .uint8, .bytes32, .bytes32]

/-! ## Each call is a layout -/

/-- **The padding of the program fills a word up.** -/
theorem padding_eq (length : ℕ) :
    (if length % 32 = 0 then [] else List.replicate (32 - length % 32) 0) = Abi.padding length := by
  unfold Abi.padding
  split_ifs with h
  · rw [h]
    rfl
  · rw [Nat.mod_eq_of_lt (show 32 - length % 32 < 32 by omega)]

theorem erc20TransferData_eq (toAddress : EvmAddress) (amount : RawAmount) :
    erc20TransferData toAddress amount
      = Token.transferSelector ++ Abi.encode [.address toAddress, .uint256 amount] := by
  simp only [erc20TransferData, Token.transferSelector, Abi.encode, Abi.headWords, Abi.Value.headWord,
    Abi.Value.tail, List.flatMap_cons, List.flatMap_nil, Abi.encodeWords_cons, Abi.encodeWords_nil,
    addressWord_eq, amountWord, List.append_assoc, List.append_nil]

theorem encodeEip3009_eq (fromAddress toAddress : EvmAddress) (value : RawAmount)
    (validAfter validBefore : UInt64) (nonce : BitVec 256) (sig : TypedSignature) :
    encodeEip3009TransferWithAuthorization fromAddress toAddress value validAfter validBefore nonce
        sig
      = Token.authorizationSelector ++ Abi.encode [.address fromAddress, .address toAddress,
        .uint256 value, .uint256 (wordOfU64 validAfter), .uint256 (wordOfU64 validBefore),
        .bytes32 nonce, .uint8 sig.v, .bytes32 sig.r, .bytes32 sig.s] := by
  simp only [encodeEip3009TransferWithAuthorization, Token.authorizationSelector, Abi.encode,
    Abi.headWords, Abi.Value.headWord, Abi.Value.tail, List.flatMap_cons, List.flatMap_nil,
    Abi.encodeWords_cons, Abi.encodeWords_nil, addressWord_eq, byteWord_eq, amountWord, u64Word,
    hashBytes, toNat_wordOfU64, List.append_assoc, List.append_nil]

/-- The only call with a tail: five words are before it. -/
theorem encodePolygon_eq (userAddress : EvmAddress) (functionSignature : List UInt8)
    (sig : TypedSignature) :
    encodePolygonExecuteMetaTransaction userAddress functionSignature sig
      = Token.metaTransactionSelector ++ Abi.encode [.address userAddress,
        .bytes functionSignature, .bytes32 sig.r, .bytes32 sig.s, .uint8 sig.v] := by
  unfold encodePolygonExecuteMetaTransaction
  rw [padding_eq]
  simp only [Token.metaTransactionSelector, Abi.encode, Abi.headWords, Abi.Value.headWord, Abi.Value.tail,
    List.flatMap_cons, List.flatMap_nil, Abi.encodeWords_cons, Abi.encodeWords_nil,
    addressWord_eq, byteWord_eq, natWord, hashBytes, List.length_cons, List.length_nil,
    List.append_assoc, List.append_nil, List.nil_append, Nat.reduceAdd, Nat.reduceMul]

theorem encodeEip2612_eq (owner spender : EvmAddress) (value : RawAmount) (deadline : UInt64)
    (sig : TypedSignature) :
    encodeEip2612Permit owner spender value deadline sig
      = Token.permitSelector ++ Abi.encode [.address owner, .address spender, .uint256 value,
        .uint256 (wordOfU64 deadline), .uint8 sig.v, .bytes32 sig.r, .bytes32 sig.s] := by
  simp only [encodeEip2612Permit, Token.permitSelector, Abi.encode, Abi.headWords, Abi.Value.headWord,
    Abi.Value.tail, List.flatMap_cons, List.flatMap_nil, Abi.encodeWords_cons, Abi.encodeWords_nil,
    addressWord_eq, byteWord_eq, amountWord, u64Word, hashBytes, toNat_wordOfU64,
    List.append_assoc, List.append_nil]

/-! ## What is read -/

/-- **A call of a function**: its selector, and after it the arguments, which are read
back by their kinds, in whole words. -/
def IsCallOf (data selector : List UInt8) (kinds : List Abi.Kind) (values : List Abi.Value) : Prop :=
  data.take 4 = selector ∧ Abi.decode kinds (data.drop 4) = some values
    ∧ ∃ words, data.length = 4 + 32 * words

theorem isCallOf_encode {selector : List UInt8} {values : List Abi.Value} (hs : selector.length = 4)
    (h : (Abi.encode values).length < 2 ^ 256) :
    IsCallOf (selector ++ Abi.encode values) selector (values.map Abi.Value.kind) values := by
  refine ⟨List.take_left' hs, ?_, ?_⟩
  · rw [List.drop_left' hs]
    exact Abi.decode_encode values h
  · obtain ⟨words, hwords⟩ := Abi.dvd_length_encode values
    exact ⟨words, by rw [List.length_append, hs, hwords]⟩

/-- **The calls are what a contract reads.** Reading the bytes after the selector by the
declared kinds gives the arguments of each call in the declared order, and every call is
four bytes and whole words. -/
theorem calldata_reads_back :
    (∀ (toAddress : EvmAddress) (amount : RawAmount),
      IsCallOf (erc20TransferData toAddress amount) Token.transferSelector transferKinds
        [.address toAddress, .uint256 amount])
    ∧ (∀ (fromAddress toAddress : EvmAddress) (value : RawAmount) (validAfter validBefore : UInt64)
        (nonce : BitVec 256) (sig : TypedSignature),
      IsCallOf (encodeEip3009TransferWithAuthorization fromAddress toAddress value validAfter
          validBefore nonce sig) Token.authorizationSelector authorizationKinds
        [.address fromAddress, .address toAddress, .uint256 value, .uint256 (wordOfU64 validAfter),
          .uint256 (wordOfU64 validBefore), .bytes32 nonce, .uint8 sig.v, .bytes32 sig.r,
          .bytes32 sig.s])
    ∧ (∀ (userAddress : EvmAddress) (functionSignature : List UInt8) (sig : TypedSignature),
      functionSignature.length < 2 ^ 64 →
      IsCallOf (encodePolygonExecuteMetaTransaction userAddress functionSignature sig)
        Token.metaTransactionSelector metaTransactionKinds
        [.address userAddress, .bytes functionSignature, .bytes32 sig.r, .bytes32 sig.s,
          .uint8 sig.v])
    ∧ (∀ (owner spender : EvmAddress) (value : RawAmount) (deadline : UInt64)
        (sig : TypedSignature),
      IsCallOf (encodeEip2612Permit owner spender value deadline sig) Token.permitSelector
        permitKinds
        [.address owner, .address spender, .uint256 value, .uint256 (wordOfU64 deadline),
          .uint8 sig.v, .bytes32 sig.r, .bytes32 sig.s]) := by
  refine ⟨?_, ?_, ?_, ?_⟩
  · intro toAddress amount
    rw [erc20TransferData_eq]
    exact isCallOf_encode rfl (by simp [Abi.length_encode, Abi.Value.tail])
  · intro fromAddress toAddress value validAfter validBefore nonce sig
    rw [encodeEip3009_eq]
    exact isCallOf_encode rfl (by simp [Abi.length_encode, Abi.Value.tail])
  · intro userAddress functionSignature sig h
    rw [encodePolygon_eq]
    refine isCallOf_encode rfl ?_
    have hpadding := Abi.length_padding_lt functionSignature.length
    simp only [Abi.length_encode, List.flatMap_cons, List.flatMap_nil, Abi.Value.tail,
      List.length_append, List.length_cons, List.length_nil, Abi.length_toBytes]
    omega
  · intro owner spender value deadline sig
    rw [encodeEip2612_eq]
    exact isCallOf_encode rfl (by simp [Abi.length_encode, Abi.Value.tail])

/-- A transfer inside a meta-transaction. -/
theorem calldata_reads_back_of_transfer :
    Abi.decode metaTransactionKinds
        ((encodePolygonExecuteMetaTransaction 0xc0 (erc20TransferData 0xd0 5) ⟨27, 1, 2⟩).drop 4)
      = some [.address 0xc0, .bytes (erc20TransferData 0xd0 5), .bytes32 1, .bytes32 2,
        .uint8 27] :=
  (calldata_reads_back.2.2.1 0xc0 (erc20TransferData 0xd0 5) ⟨27, 1, 2⟩ (by decide +kernel)).2.1
