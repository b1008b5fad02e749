import Pay3.Domain
import Pay3.TokenStandards

/-!
# Signed sweeps

The typed data a child account signs, and the calls that carry the signature to
the token, byte by byte as the program writes them. Each is what the standard
says: the hashes are those a contract computes, and the calls are read by a
contract as what they are meant to be.
-/

/-- `TypedSignature`. -/
abbrev TypedSignature := Token.Signature

/-! ## Pieces -/

/-- An address in a word. -/
def addressWord (a : EvmAddress) : List UInt8 := List.replicate 12 0 ++ Abi.toBytes 20 a.toNat

/-- A hash. -/
def hashBytes (hash : BitVec 256) : List UInt8 := Abi.toBytes 32 hash.toNat

/-- An amount, `to_be_bytes`. -/
def amountWord (amount : RawAmount) : List UInt8 := Abi.toBytes 32 amount.toNat

/-- A number as a `U256`. -/
def natWord (n : ℕ) : List UInt8 := Abi.toBytes 32 n

/-- A `u64` as a `U256`. -/
def u64Word (n : UInt64) : List UInt8 := Abi.toBytes 32 n.toNat

/-- The byte of a signature, in a word. -/
def byteWord (b : UInt8) : List UInt8 := List.replicate 31 0 ++ [b]

theorem addressWord_eq (a : EvmAddress) : addressWord a = Abi.toBytes 32 a.toNat :=
  (Abi.toBytes_add_of_lt 12 (lt_of_lt_of_eq a.isLt (by norm_num))).symm

theorem byteWord_eq (b : UInt8) : byteWord b = Abi.toBytes 32 b.toNat := by
  have hone : Abi.toBytes 1 b.toNat = [b] := by
    rw [Abi.toBytes, Abi.toBytes, UInt8.ofNat_toNat]
    rfl
  unfold byteWord
  rw [show (32 : ℕ) = 31 + 1 from rfl, Abi.toBytes_add_of_lt 31 (lt_of_lt_of_eq b.toNat_lt
    (by norm_num)), hone]

/-- A `u64` as a word of the machine. -/
def wordOfU64 (n : UInt64) : BitVec 256 := BitVec.ofNat 256 n.toNat

@[simp] theorem toNat_wordOfU64 (n : UInt64) : (wordOfU64 n).toNat = n.toNat := by
  unfold wordOfU64
  rw [BitVec.toNat_ofNat, Nat.mod_eq_of_lt (lt_trans n.toNat_lt (by norm_num))]

section Hashing

variable (keccak256 : List UInt8 → BitVec 256)

/-! ## Domains and digests -/

/-- `eip712_domain_separator`. -/
def eip712DomainSeparator (name version : String) (chainId : ℕ)
    (verifyingContract : EvmAddress) : BitVec 256 :=
  let typeHash := keccak256 (utf8
    "EIP712Domain(string name,string version,uint256 chainId,address verifyingContract)")
  keccak256 (hashBytes typeHash ++ hashBytes (keccak256 (utf8 name))
    ++ hashBytes (keccak256 (utf8 version)) ++ natWord chainId ++ addressWord verifyingContract)

/-- `polygon_meta_tx_domain_separator`: the chain is the salt. -/
def polygonMetaTxDomainSeparator (name version : String) (chainId : ℕ)
    (verifyingContract : EvmAddress) : BitVec 256 :=
  let typeHash := keccak256 (utf8
    "EIP712Domain(string name,string version,address verifyingContract,bytes32 salt)")
  keccak256 (hashBytes typeHash ++ hashBytes (keccak256 (utf8 name))
    ++ hashBytes (keccak256 (utf8 version)) ++ addressWord verifyingContract ++ natWord chainId)

/-- `eip712_digest`. -/
def eip712Digest (domainSeparator structHash : BitVec 256) : BitVec 256 :=
  keccak256 ([0x19, 0x01] ++ hashBytes domainSeparator ++ hashBytes structHash)

/-! ## Structures -/

/-- `eip3009_struct_hash`. -/
def eip3009StructHash (fromAddress toAddress : EvmAddress) (value : RawAmount)
    (validAfter validBefore : UInt64) (nonce : BitVec 256) : BitVec 256 :=
  let typeHash := keccak256 (utf8
    ("TransferWithAuthorization(address from,address to,uint256 value,"
      ++ "uint256 validAfter,uint256 validBefore,bytes32 nonce)"))
  keccak256 (hashBytes typeHash ++ addressWord fromAddress ++ addressWord toAddress
    ++ amountWord value ++ u64Word validAfter ++ u64Word validBefore ++ hashBytes nonce)

/-- `polygon_meta_tx_struct_hash`. -/
def polygonMetaTxStructHash (nonce : ℕ) (fromAddress : EvmAddress)
    (functionSignature : List UInt8) : BitVec 256 :=
  let typeHash := keccak256 (utf8
    "MetaTransaction(uint256 nonce,address from,bytes functionSignature)")
  keccak256 (hashBytes typeHash ++ natWord nonce ++ addressWord fromAddress
    ++ hashBytes (keccak256 functionSignature))

/-- `eip2612_struct_hash`. -/
def eip2612StructHash (owner spender : EvmAddress) (value : RawAmount) (nonce : ℕ)
    (deadline : UInt64) : BitVec 256 :=
  let typeHash := keccak256 (utf8
    "Permit(address owner,address spender,uint256 value,uint256 nonce,uint256 deadline)")
  keccak256 (hashBytes typeHash ++ addressWord owner ++ addressWord spender ++ amountWord value
    ++ natWord nonce ++ u64Word deadline)

end Hashing

/-! ## Calls -/

/-- `erc20_transfer_data`. -/
def erc20TransferData (toAddress : EvmAddress) (amount : RawAmount) : List UInt8 :=
  [0xa9, 0x05, 0x9c, 0xbb] ++ addressWord toAddress ++ amountWord amount

/-- `encode_eip3009_transfer_with_authorization`. -/
def encodeEip3009TransferWithAuthorization (fromAddress toAddress : EvmAddress) (value : RawAmount)
    (validAfter validBefore : UInt64) (nonce : BitVec 256) (sig : TypedSignature) : List UInt8 :=
  [0xe3, 0xee, 0x16, 0x0e] ++ addressWord fromAddress ++ addressWord toAddress ++ amountWord value
    ++ u64Word validAfter ++ u64Word validBefore ++ hashBytes nonce ++ byteWord sig.v
    ++ hashBytes sig.r ++ hashBytes sig.s

/-- `encode_polygon_execute_meta_transaction`. -/
def encodePolygonExecuteMetaTransaction (userAddress : EvmAddress) (functionSignature : List UInt8)
    (sig : TypedSignature) : List UInt8 :=
  [0x0c, 0x53, 0xc5, 0x1c] ++ addressWord userAddress ++ natWord 160 ++ hashBytes sig.r
    ++ hashBytes sig.s ++ byteWord sig.v ++ natWord functionSignature.length
    ++ functionSignature
    -- to a multiple of 32
    ++ (if functionSignature.length % 32 = 0 then []
      else List.replicate (32 - functionSignature.length % 32) 0)

/-- `encode_eip2612_permit`. -/
def encodeEip2612Permit (owner spender : EvmAddress) (value : RawAmount) (deadline : UInt64)
    (sig : TypedSignature) : List UInt8 :=
  [0xd5, 0x05, 0xac, 0xcf] ++ addressWord owner ++ addressWord spender ++ amountWord value
    ++ u64Word deadline ++ byteWord sig.v ++ hashBytes sig.r ++ hashBytes sig.s

/-! ## What a contract makes of them -/

section Standards

variable {keccak256 : List UInt8 → BitVec 256}

theorem eip712DomainSeparator_eq (name version : String) (chainId : ℕ)
    (verifyingContract : EvmAddress) :
    eip712DomainSeparator keccak256 name version chainId verifyingContract
      = Token.Domain.separator keccak256 ⟨name, version, chainId, verifyingContract⟩ := by
  simp only [eip712DomainSeparator, Token.Domain.separator, Token.hashStruct, hashBytes, natWord,
    addressWord_eq, Abi.encodeWords_cons, Abi.encodeWords_nil, List.append_assoc, List.append_nil]

theorem polygonMetaTxDomainSeparator_eq (name version : String) (chainId : ℕ)
    (verifyingContract : EvmAddress) :
    polygonMetaTxDomainSeparator keccak256 name version chainId verifyingContract
      = Token.Domain.saltSeparator keccak256 ⟨name, version, chainId, verifyingContract⟩ := by
  simp only [polygonMetaTxDomainSeparator, Token.Domain.saltSeparator, Token.hashStruct, hashBytes,
    natWord, addressWord_eq, Abi.encodeWords_cons, Abi.encodeWords_nil, List.append_assoc,
    List.append_nil]

theorem eip712Digest_eq {d : Token.Domain} {m : Token.Message} {domainSeparator structHash : BitVec 256}
    (hdomain : domainSeparator = m.separator keccak256 d)
    (hstruct : structHash = m.structHash keccak256) :
    eip712Digest keccak256 domainSeparator structHash = m.digest keccak256 d := by
  subst hdomain hstruct
  simp only [eip712Digest, Token.Message.digest, hashBytes, Abi.encodeWords_cons,
    Abi.encodeWords_nil, List.append_nil, List.cons_append, List.nil_append]

theorem eip3009StructHash_eq (fromAddress toAddress : EvmAddress) (value : RawAmount)
    (validAfter validBefore : UInt64) (nonce : BitVec 256) :
    eip3009StructHash keccak256 fromAddress toAddress value validAfter validBefore nonce
      = Token.Message.structHash keccak256 (.transferWithAuthorization fromAddress toAddress value
        (wordOfU64 validAfter) (wordOfU64 validBefore) nonce) := by
  simp only [eip3009StructHash, Token.Message.structHash, Token.hashStruct, hashBytes, amountWord,
    u64Word, addressWord_eq, toNat_wordOfU64, Abi.encodeWords_cons, Abi.encodeWords_nil,
    List.append_assoc, List.append_nil]

theorem polygonMetaTxStructHash_eq (nonce : ℕ) (fromAddress : EvmAddress)
    (functionSignature : List UInt8) :
    polygonMetaTxStructHash keccak256 nonce fromAddress functionSignature
      = Token.Message.structHash keccak256
        (.metaTransaction nonce fromAddress functionSignature) := by
  simp only [polygonMetaTxStructHash, Token.Message.structHash, Token.hashStruct, hashBytes,
    natWord, addressWord_eq, Abi.encodeWords_cons, Abi.encodeWords_nil, List.append_assoc,
    List.append_nil]

theorem eip2612StructHash_eq (owner spender : EvmAddress) (value : RawAmount) (nonce : ℕ)
    (deadline : UInt64) :
    eip2612StructHash keccak256 owner spender value nonce deadline
      = Token.Message.structHash keccak256
        (.permit owner spender value nonce (wordOfU64 deadline)) := by
  simp only [eip2612StructHash, Token.Message.structHash, Token.hashStruct, hashBytes, amountWord,
    natWord, u64Word, addressWord_eq, toNat_wordOfU64, Abi.encodeWords_cons, Abi.encodeWords_nil,
    List.append_assoc, List.append_nil]

/-- **The digest of a sweep with an authorization is the one a contract computes.** -/
theorem eip3009_digest (name version : String) (chainId : ℕ) (token fromAddress toAddress : EvmAddress)
    (value : RawAmount) (validAfter validBefore : UInt64) (nonce : BitVec 256) :
    eip712Digest keccak256 (eip712DomainSeparator keccak256 name version chainId token)
        (eip3009StructHash keccak256 fromAddress toAddress value validAfter validBefore nonce)
      = Token.Message.digest keccak256 ⟨name, version, chainId, token⟩
        (.transferWithAuthorization fromAddress toAddress value (wordOfU64 validAfter)
          (wordOfU64 validBefore) nonce) :=
  eip712Digest_eq (eip712DomainSeparator_eq name version chainId token)
    (eip3009StructHash_eq fromAddress toAddress value validAfter validBefore nonce)

/-- The same for a meta-transaction. -/
theorem polygonMetaTx_digest (name version : String) (chainId nonce : ℕ)
    (token fromAddress : EvmAddress) (functionSignature : List UInt8) :
    eip712Digest keccak256 (polygonMetaTxDomainSeparator keccak256 name version chainId token)
        (polygonMetaTxStructHash keccak256 nonce fromAddress functionSignature)
      = Token.Message.digest keccak256 ⟨name, version, chainId, token⟩
        (.metaTransaction nonce fromAddress functionSignature) :=
  eip712Digest_eq (polygonMetaTxDomainSeparator_eq name version chainId token)
    (polygonMetaTxStructHash_eq nonce fromAddress functionSignature)

/-- The same for a permit. -/
theorem eip2612_digest (name version : String) (chainId nonce : ℕ)
    (token owner spender : EvmAddress) (value : RawAmount) (deadline : UInt64) :
    eip712Digest keccak256 (eip712DomainSeparator keccak256 name version chainId token)
        (eip2612StructHash keccak256 owner spender value nonce deadline)
      = Token.Message.digest keccak256 ⟨name, version, chainId, token⟩
        (.permit owner spender value nonce (wordOfU64 deadline)) :=
  eip712Digest_eq (eip712DomainSeparator_eq name version chainId token)
    (eip2612StructHash_eq owner spender value nonce deadline)

/-- **A contract reads a transfer as a transfer**, whatever follows it. -/
theorem decode_erc20TransferData (toAddress : EvmAddress) (amount : RawAmount)
    (rest : List UInt8) :
    Token.decode (erc20TransferData toAddress amount ++ rest)
      = some (.transfer toAddress amount) := by
  have hdata : erc20TransferData toAddress amount
      = Token.Call.encode (.transfer toAddress amount) := by
    simp only [erc20TransferData, Token.Call.encode, Token.transferSelector, addressWord_eq,
      amountWord, Abi.encodeWords_cons, Abi.encodeWords_nil, List.append_assoc, List.append_nil]
  rw [hdata]
  exact Token.decode_encode _ rest (fun _ _ _ h => Token.Call.noConfusion h)

theorem decode_encodeEip3009 (fromAddress toAddress : EvmAddress) (value : RawAmount)
    (validAfter validBefore : UInt64) (nonce : BitVec 256) (sig : TypedSignature) :
    Token.decode (encodeEip3009TransferWithAuthorization fromAddress toAddress value validAfter
        validBefore nonce sig)
      = some (.transferWithAuthorization fromAddress toAddress value (wordOfU64 validAfter)
        (wordOfU64 validBefore) nonce sig) := by
  have hdata : encodeEip3009TransferWithAuthorization fromAddress toAddress value validAfter
        validBefore nonce sig
      = Token.Call.encode (.transferWithAuthorization fromAddress toAddress value
        (wordOfU64 validAfter) (wordOfU64 validBefore) nonce sig) ++ [] := by
    simp only [encodeEip3009TransferWithAuthorization, Token.Call.encode,
      Token.authorizationSelector, addressWord_eq, byteWord_eq, amountWord, u64Word, hashBytes,
      toNat_wordOfU64, Abi.encodeWords_cons, Abi.encodeWords_nil, List.append_assoc,
      List.append_nil]
  rw [hdata]
  exact Token.decode_encode _ [] (fun _ _ _ h => Token.Call.noConfusion h)

theorem decode_encodePolygon (userAddress : EvmAddress) (functionSignature : List UInt8)
    (sig : TypedSignature) (h : functionSignature.length < 2 ^ 256) :
    Token.decode (encodePolygonExecuteMetaTransaction userAddress functionSignature sig)
      = some (.executeMetaTransaction userAddress functionSignature sig) := by
  have hdata : encodePolygonExecuteMetaTransaction userAddress functionSignature sig
      = Token.Call.encode (.executeMetaTransaction userAddress functionSignature sig)
        ++ (if functionSignature.length % 32 = 0 then []
          else List.replicate (32 - functionSignature.length % 32) 0) := by
    simp only [encodePolygonExecuteMetaTransaction, Token.Call.encode,
      Token.metaTransactionSelector, addressWord_eq, byteWord_eq, natWord, hashBytes,
      Abi.encodeWords_cons, Abi.encodeWords_nil, List.append_assoc, List.append_nil]
  rw [hdata]
  refine Token.decode_encode _ _ (fun user bytes sig' heq => ?_)
  obtain ⟨-, rfl, -⟩ := Token.Call.executeMetaTransaction.inj heq
  exact h

theorem decode_encodeEip2612 (owner spender : EvmAddress) (value : RawAmount) (deadline : UInt64)
    (sig : TypedSignature) :
    Token.decode (encodeEip2612Permit owner spender value deadline sig)
      = some (.permit owner spender value (wordOfU64 deadline) sig) := by
  have hdata : encodeEip2612Permit owner spender value deadline sig
      = Token.Call.encode (.permit owner spender value (wordOfU64 deadline) sig) ++ [] := by
    simp only [encodeEip2612Permit, Token.Call.encode, Token.permitSelector, addressWord_eq,
      byteWord_eq, amountWord, u64Word, hashBytes, toNat_wordOfU64, Abi.encodeWords_cons,
      Abi.encodeWords_nil, List.append_assoc, List.append_nil]
  rw [hdata]
  exact Token.decode_encode _ [] (fun _ _ _ h => Token.Call.noConfusion h)

end Standards
