import Pay3.CalldataLayout
import Pay3.Config

/-!
# The name and the version of a token

A signature for a token is bound to the token's name and version, which the contract
hashes as they are. For a token that is not in the list of presets the program asks the
contract: it calls `name()` and `version()` and decodes what comes back, either a string
with its length in front of it, or, of old contracts, 32 bytes with zeros at the end.

`decode_abi_string` takes the whitespace around the text off, and answers nothing when
that leaves nothing. So it gives the contract's own string back exactly when no
whitespace is around it, and it looks for the length right after the first word, whatever
offset that word holds.
-/

/-! ## The decoder -/

/-- `std::str::from_utf8`. -/
def fromUtf8 (bytes : List UInt8) : Option String := String.fromUTF8? ⟨bytes.toArray⟩

/-- The text without the whitespace around it, if something is left. -/
def trimmedText (s : String) : Option String := if trimText s = "" then none else some (trimText s)

/-- The first half of `decode_abi_string`: a length in the second word, and behind it
the text. The last two comparisons are `usize::try_from` and `checked_add`. -/
def decodeDynamicString (data : List UInt8) : Option String :=
  let length := Abi.ofBytes ((data.drop 32).take 32)
  if 64 ≤ data.length ∧ length < 2 ^ 64 ∧ 64 + length < 2 ^ 64 ∧ 64 + length ≤ data.length then
    (fromUtf8 ((data.drop 64).take length)).bind trimmedText
  else none

/-- The second half of `decode_abi_string`: 32 bytes, which end at the first zero. -/
def decodeFixedString (data : List UInt8) : Option String :=
  let bytes := data.takeWhile (· != 0)
  if data.length = 32 ∧ bytes ≠ [] then (fromUtf8 bytes).bind trimmedText else none

/-- **`decode_abi_string`.** -/
def decodeAbiString (data : List UInt8) : Option String :=
  (decodeDynamicString data).orElse (fun _ => decodeFixedString data)

/-! ## The probe -/

/-- `ERC20_NAME_SELECTOR`. -/
def erc20NameSelector : List UInt8 := [0x06, 0xfd, 0xde, 0x03]

/-- `ERC20_VERSION_SELECTOR`. -/
def erc20VersionSelector : List UInt8 := [0x54, 0xfd, 0x4d, 0x50]

/-- `eip3009_probe_calldata`. -/
def eip3009ProbeCalldata : List UInt8 := [0xe9, 0x4a, 0x01, 0x02] ++ List.replicate 64 0

/-- `polygon_meta_tx_probe_calldata`. -/
def polygonMetaTxProbeCalldata : List UInt8 := [0x2d, 0x03, 0x35, 0xab] ++ List.replicate 32 0

/-- `domain_separator_probe_calldata`. -/
def domainSeparatorProbeCalldata : List UInt8 := [0x36, 0x44, 0xe5, 0x15]

/-- `nonces_probe_calldata`. -/
def noncesProbeCalldata : List UInt8 := [0x7e, 0xce, 0xbe, 0x00] ++ List.replicate 32 0

/-- `OnChainTokenCapabilities`. -/
structure OnChainTokenCapabilities where
  method : Config.CollectionMethod
  tokenName : Option String
  tokenVersion : Option String
  reason : String
  deriving DecidableEq

/-- `ContractCallClient::call_contract`. -/
abbrev CallContract := EvmAddress → List UInt8 → Except String (List UInt8)

/-- The text a call answers with. -/
def callString (callContract : CallContract) (token : EvmAddress) (selector : List UInt8) :
    Option String :=
  match callContract token selector with
  | .ok data => decodeAbiString data
  | .error _ => none

/-- Whether a call answers with one word. -/
def answersWord (callContract : CallContract) (token : EvmAddress) (calldata : List UInt8) : Bool :=
  match callContract token calldata with
  | .ok data => data.length == 32
  | .error _ => false

/-- Whether a call answers with one word that is not zero. -/
def answersNonzeroWord (callContract : CallContract) (token : EvmAddress)
    (calldata : List UInt8) : Bool :=
  match callContract token calldata with
  | .ok data => data.length == 32 && data.any (· != 0)
  | .error _ => false

/-- **`probe_on_chain_token_capabilities`.** -/
def probeOnChainTokenCapabilities (callContract : CallContract) (token : EvmAddress) :
    OnChainTokenCapabilities :=
  let tokenName := callString callContract token erc20NameSelector
  let tokenVersion := callString callContract token erc20VersionSelector
  if answersWord callContract token eip3009ProbeCalldata then
    ⟨.eip3009, tokenName, tokenVersion.orElse (fun _ => some "2"),
      "On-chain contract probe confirmed EIP-3009 authorizationState support"⟩
  else if answersWord callContract token polygonMetaTxProbeCalldata then
    ⟨.polygonMetaTx, tokenName, tokenVersion.orElse (fun _ => some "1"),
      "On-chain contract probe confirmed Polygon NativeMetaTransaction (getNonce) support"⟩
  else if answersNonzeroWord callContract token domainSeparatorProbeCalldata
      && answersWord callContract token noncesProbeCalldata then
    ⟨.eip2612, tokenName, tokenVersion.orElse (fun _ => some "1"),
      "On-chain contract probe confirmed EIP-2612 permit (DOMAIN_SEPARATOR & nonces) support"⟩
  else
    ⟨.standard, tokenName, tokenVersion,
      "On-chain contract probe did not detect EIP-3009, MetaTx, or EIP-2612 interfaces, "
        ++ "safely using standard transfer"⟩

/-! ## What is decoded -/

section Decoding

variable {data : List UInt8} {s : String}

theorem fromUtf8_utf8 (s : String) : fromUtf8 (utf8 s) = some s := by
  have hbytes : (⟨(utf8 s).toArray⟩ : ByteArray) = s.toUTF8 := rfl
  unfold fromUtf8 String.fromUTF8?
  rw [hbytes, String.toUTF8_eq_toByteArray, dif_pos s.isValidUTF8]
  rfl

/-- **A string returned by a call**, right after its place: the word 32, the length of
the string, its bytes and what follows them. The data are a slice of the machine. -/
def ReturnsString (data : List UInt8) (s : String) : Prop :=
  (∃ rest : List UInt8,
    data = Abi.toBytes 32 32 ++ (Abi.toBytes 32 (utf8 s).length ++ (utf8 s ++ rest)))
  ∧ data.length < 2 ^ 64

/-- **A string returned as 32 bytes**, filled up with zeros. -/
def ReturnsBytes32 (data : List UInt8) (s : String) : Prop :=
  (utf8 s).length ≤ 32 ∧ 0 ∉ utf8 s
    ∧ data = utf8 s ++ List.replicate (32 - (utf8 s).length) 0

/-- The layout of one string is a string as a call returns it. -/
theorem returnsString_encode (h : (Abi.encode [.bytes (utf8 s)]).length < 2 ^ 64) :
    ReturnsString (Abi.encode [.bytes (utf8 s)]) s := by
  refine ⟨⟨Abi.padding (utf8 s).length, ?_⟩, h⟩
  simp only [Abi.encode, Abi.headWords, Abi.Value.headWord, Abi.Value.tail, List.flatMap_cons,
    List.flatMap_nil, Abi.encodeWords_cons, Abi.encodeWords_nil, List.length_cons,
    List.length_nil, List.append_nil, Nat.zero_add, Nat.mul_one]

/-- What the decoder finds after a first word it does not look at. -/
theorem decodeAbiString_of_secondWord {word rest : List UInt8} (hword : word.length = 32)
    (hdata : data = word ++ (Abi.toBytes 32 (utf8 s).length ++ (utf8 s ++ rest)))
    (hlt : data.length < 2 ^ 64) : decodeAbiString data = trimmedText s := by
  have hlength : data.length = 64 + (utf8 s).length + rest.length := by
    rw [hdata]
    simp only [List.length_append, Abi.length_toBytes, hword]
    omega
  have hsecond : (data.drop 32).take 32 = Abi.toBytes 32 (utf8 s).length := by
    rw [hdata, List.drop_left' hword, List.take_left' (Abi.length_toBytes 32 _)]
  have htext : (data.drop 64).take (utf8 s).length = utf8 s := by
    rw [hdata, ← List.append_assoc, List.drop_left' (by
      rw [List.length_append, hword, Abi.length_toBytes]), List.take_left]
  have hvalue : Abi.ofBytes (Abi.toBytes 32 (utf8 s).length) = (utf8 s).length :=
    Abi.ofBytes_toBytes_of_lt (lt_trans (show (utf8 s).length < 2 ^ 64 by omega) (by norm_num))
  have hdynamic : decodeDynamicString data = trimmedText s := by
    unfold decodeDynamicString
    dsimp only
    rw [hsecond, hvalue, htext, fromUtf8_utf8, if_pos ⟨by omega, by omega, by omega, by omega⟩]
    rfl
  have hfixed : decodeFixedString data = none := by
    unfold decodeFixedString
    dsimp only
    rw [if_neg (fun h => by omega)]
  unfold decodeAbiString
  rw [hdynamic, hfixed]
  cases trimmedText s with
  | none => rfl
  | some t => rfl

/-- **A returned string is given back without the whitespace around it.** -/
theorem decodeAbiString_of_returnsString (h : ReturnsString data s) :
    decodeAbiString data = trimmedText s := by
  obtain ⟨⟨rest, hdata⟩, hlt⟩ := h
  exact decodeAbiString_of_secondWord (Abi.length_toBytes 32 32) hdata hlt

theorem takeWhile_ne_zero {bytes : List UInt8} (h : 0 ∉ bytes) (n : ℕ) :
    (bytes ++ List.replicate n 0).takeWhile (· != 0) = bytes := by
  have hall : ∀ b ∈ bytes, (b != 0) = true := by
    intro b hb
    rw [bne_iff_ne]
    rintro rfl
    exact h hb
  rw [List.takeWhile_append_of_pos hall]
  cases n with
  | zero => rw [List.replicate_zero, List.takeWhile_nil, List.append_nil]
  | succ n =>
    rw [List.replicate_succ, List.takeWhile_cons_of_neg (by decide), List.append_nil]

/-- So is a string of 32 bytes. -/
theorem decodeAbiString_of_returnsBytes32 (h : ReturnsBytes32 data s) :
    decodeAbiString data = trimmedText s := by
  obtain ⟨hle, hzero, hdata⟩ := h
  have hlength : data.length = 32 := by
    rw [hdata, List.length_append, List.length_replicate]
    omega
  have hdynamic : decodeDynamicString data = none := by
    unfold decodeDynamicString
    dsimp only
    rw [if_neg (fun h => by omega)]
  have hbytes : data.takeWhile (· != 0) = utf8 s := by
    rw [hdata]
    exact takeWhile_ne_zero hzero _
  unfold decodeAbiString decodeFixedString
  dsimp only
  rw [hdynamic, hbytes, fromUtf8_utf8]
  by_cases hnil : utf8 s = []
  · have hs : s = "" := utf8_injective (hnil.trans (by rfl))
    subst hs
    rw [if_neg (fun h => h.2 hnil)]
    rfl
  · rw [if_pos ⟨hlength, hnil⟩]
    rfl

/-- The string itself comes back exactly when nothing is around it. -/
theorem trimmedText_eq_some : trimmedText s = some s ↔ s ≠ "" ∧ trimText s = s := by
  unfold trimmedText
  constructor
  · intro h
    split_ifs at h with hnil
    have hs := Option.some.inj h
    exact ⟨fun hempty => hnil (hs.trans hempty), hs⟩
  · rintro ⟨hne, hs⟩
    rw [hs, if_neg hne]

/-- A version that was decoded is the version of the probe, whatever the method. -/
theorem probe_of_strings {callContract : CallContract} {token : EvmAddress} {name version : String}
    (hname : callString callContract token erc20NameSelector = some name)
    (hversion : callString callContract token erc20VersionSelector = some version) :
    (probeOnChainTokenCapabilities callContract token).tokenName = some name
      ∧ (probeOnChainTokenCapabilities callContract token).tokenVersion = some version := by
  unfold probeOnChainTokenCapabilities
  dsimp only
  rw [hname, hversion]
  split_ifs <;> exact ⟨rfl, rfl⟩

end Decoding

/-! ## The contract's own strings -/

/-- **A returned string is given back without the whitespace around it**, in either form,
and so as it is exactly when it is not empty and no whitespace is around it. For such a
name and version the domain separator of what the probe finds is the one the contract
computes. -/
theorem metadata_is_the_contracts :
    (∀ (data : List UInt8) (s : String), ReturnsString data s ∨ ReturnsBytes32 data s →
      decodeAbiString data = trimmedText s)
    ∧ (∀ s : String, trimmedText s = some s ↔ s ≠ "" ∧ trimText s = s)
    ∧ ∀ (callContract : CallContract) (token : EvmAddress) (name version : String)
      (nameData versionData : List UInt8),
      callContract token erc20NameSelector = .ok nameData →
      callContract token erc20VersionSelector = .ok versionData →
      ReturnsString nameData name ∨ ReturnsBytes32 nameData name →
      ReturnsString versionData version ∨ ReturnsBytes32 versionData version →
      name ≠ "" ∧ trimText name = name → version ≠ "" ∧ trimText version = version →
      (probeOnChainTokenCapabilities callContract token).tokenName = some name
        ∧ (probeOnChainTokenCapabilities callContract token).tokenVersion = some version
        ∧ ∀ (keccak256 : List UInt8 → BitVec 256) (chainId : ℕ),
          eip712DomainSeparator keccak256 name version chainId token
            = Token.Domain.separator keccak256 ⟨name, version, chainId, token⟩ := by
  have hdecode : ∀ (data : List UInt8) (s : String), ReturnsString data s ∨ ReturnsBytes32 data s →
      decodeAbiString data = trimmedText s := by
    rintro data s (h | h)
    · exact decodeAbiString_of_returnsString h
    · exact decodeAbiString_of_returnsBytes32 h
  refine ⟨hdecode, fun s => trimmedText_eq_some, ?_⟩
  intro callContract token name version nameData versionData hname hversion hn hv hn' hv'
  have hcallName : callString callContract token erc20NameSelector = some name := by
    unfold callString
    rw [hname]
    exact (hdecode nameData name hn).trans (trimmedText_eq_some.mpr hn')
  have hcallVersion : callString callContract token erc20VersionSelector = some version := by
    unfold callString
    rw [hversion]
    exact (hdecode versionData version hv).trans (trimmedText_eq_some.mpr hv')
  obtain ⟨hprobeName, hprobeVersion⟩ := probe_of_strings hcallName hcallVersion
  exact ⟨hprobeName, hprobeVersion,
    fun keccak256 chainId => eip712DomainSeparator_eq name version chainId token⟩

namespace TokenMetadata

/-- A contract that answers with two strings. -/
def answersWith (name version : List UInt8) : CallContract := fun _ calldata =>
  if calldata = erc20NameSelector then .ok name
  else if calldata = erc20VersionSelector then .ok version
  else .error "call reverted"

/-- A token whose name and version are read as they are. -/
theorem metadata_of_usdCoin :
    (probeOnChainTokenCapabilities (answersWith (Abi.encode [.bytes (utf8 "USD Coin")])
      (utf8 "2" ++ List.replicate 31 0)) 0x55).tokenName = some "USD Coin" := by
  have h := metadata_is_the_contracts.2.2 (answersWith (Abi.encode [.bytes (utf8 "USD Coin")])
    (utf8 "2" ++ List.replicate 31 0)) 0x55 "USD Coin" "2" _ _ rfl rfl
    (Or.inl (returnsString_encode (by decide +kernel)))
    (Or.inr ⟨by decide +kernel, by decide +kernel, by decide +kernel⟩)
    (by decide +kernel) (by decide +kernel)
  exact h.1

/-- The name is laid out two words after the beginning, with an empty word between. -/
def movedName : List UInt8 :=
  Abi.encodeWords [64, 0, 8] ++ (utf8 "USD Coin" ++ List.replicate 24 0)

/-- **Neither a name with a space at its end nor one that stands elsewhere is given
back.** A contract that reads its own answer finds both. -/
theorem metadata_is_changed :
    Abi.decode [.bytes] (Abi.encode [.bytes (utf8 "USD Coin ")])
        = some [.bytes (utf8 "USD Coin ")]
      ∧ decodeAbiString (Abi.encode [.bytes (utf8 "USD Coin ")]) ≠ some "USD Coin "
      ∧ Abi.decode [.bytes] movedName = some [.bytes (utf8 "USD Coin")]
      ∧ decodeAbiString movedName ≠ some "USD Coin" := by
  have hdata : movedName = Abi.toBytes 32 64 ++ (Abi.toBytes 32 (utf8 "").length ++ (utf8 ""
      ++ (Abi.toBytes 32 8 ++ (utf8 "USD Coin" ++ List.replicate 24 0)))) := by decide +kernel
  have hmoved : decodeAbiString movedName = trimmedText "" :=
    decodeAbiString_of_secondWord (Abi.length_toBytes 32 64) hdata (by decide +kernel)
  refine ⟨by decide +kernel, ?_, by decide +kernel, ?_⟩
  · rw [decodeAbiString_of_returnsString (returnsString_encode (by decide +kernel))]
    decide +kernel
  · rw [hmoved]
    decide +kernel

end TokenMetadata
