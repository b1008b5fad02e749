import Pay3.Abi
import Pay3.Chain
import Pay3.Json
import Pay3.Tables

/-!
# What a provider answers

The answers of a JSON-RPC provider, and how a block and a transfer log are read
from them. A field is read in two stages: first the shape of the answer, as
`serde_json` checks it, then the text of the field, a number or a hash in
hexadecimal. Text is read byte by byte, since its length is counted in bytes.

The texts of `serde_json`'s errors and the calendar of the `time` crate are
parameters (`RpcLibraries`). Nothing depends on the texts but the messages that
quote them.
-/

/-! ## Hexadecimal text -/

/-- `hex_value`. -/
def hexValue (byte : UInt8) : Option ℕ :=
  if 48 ≤ byte ∧ byte ≤ 57 then some (byte.toNat - 48)
  else if 97 ≤ byte ∧ byte ≤ 102 then some (byte.toNat - 97 + 10)
  else if 65 ≤ byte ∧ byte ≤ 70 then some (byte.toNat - 65 + 10)
  else none

/-- What follows `0x` or `0X`. -/
def stripHexPrefix (value : String) : Option (List UInt8) :=
  match utf8 value with
  | 48 :: 120 :: hex => some hex
  | 48 :: 88 :: hex => some hex
  | _ => none

/-- The number a list of digits writes. -/
def digitsValue (base : ℕ) (digits : List ℕ) : ℕ :=
  digits.foldl (fun acc d => acc * base + d) 0

/-- `u64::from_str_radix` with radix 16, on at most 16 digits: it takes a plus
sign, and no text without digits. -/
def fromStrRadix16 (hex : List UInt8) : Option ℕ :=
  match hex with
  | [] => none
  | [43] => none
  | 43 :: digits => (digits.mapM hexValue).map (digitsValue 16)
  | digits => (digits.mapM hexValue).map (digitsValue 16)

/-- `HexParseError`. -/
inductive HexParseError
  | missingPrefix (kind : String)
  | invalidLength (kind : String) (expected actual : ℕ)
  | invalidHex (kind : String) (index : ℕ)
  deriving DecidableEq

/-- Its text. -/
def HexParseError.display : HexParseError → String
  | .missingPrefix kind => kind ++ " must start with 0x"
  | .invalidLength kind expected actual =>
    kind ++ " must contain " ++ toString expected ++ " hex chars, got " ++ toString actual
  | .invalidHex kind index => kind ++ " contains invalid hex at char " ++ toString index

/-- Two digits a byte, from the digit `index` on. The position of a digit that
is none is the error. -/
def hexPairs (index : ℕ) : List UInt8 → Except ℕ (List ℕ)
  | high :: low :: rest => do
    let high ← orError (hexValue high) index
    let low ← orError (hexValue low) (index + 1)
    let bytes ← hexPairs (index + 2) rest
    pure ((high * 16 + low) :: bytes)
  | _ => pure []

/-- `n` bytes in hexadecimal. -/
def decodeFixed (n : ℕ) (hex : List UInt8) (kind : String) :
    Except HexParseError (BitVec (8 * n)) := do
  ensure (decide (hex.length = n * 2)) (.invalidLength kind (n * 2) hex.length)
  let bytes ← (hexPairs 0 hex).mapError (.invalidHex kind)
  pure (BitVec.ofNat (8 * n) (digitsValue 256 bytes))

/-- `decode_prefixed_fixed`, for a value of `n` bytes. -/
def decodePrefixedFixed (n : ℕ) (input kind : String) : Except HexParseError (BitVec (8 * n)) := do
  let hex ← orError (stripHexPrefix input) (.missingPrefix kind)
  decodeFixed n hex kind

/-! ## Errors -/

/-- **`ChainError`**, with everything its texts say. -/
inductive RpcChainError
  | rpcUnavailable (message : String)
  | malformedRpcResponse (message : String)
  | providerHashMismatch (context leftProvider : String) (leftHash : BlockHash)
      (rightProvider : String) (rightHash : BlockHash)
  | invalidBlockRange (fromBlock toBlock : ℕ)
  | blockNotFound (number : ℕ)
  | transactionNotFound (txHash : TxHash)
  | chainIdMismatch (expected actual : ℕ)
  | capacityExceeded (logCount maxLogs : ℕ)
  deriving DecidableEq

/-- `to_lower_hex` of a hash. -/
def hashDisplay (hash : BitVec 256) : String := "0x" ++ String.ofList (hexDigits 64 hash.toNat)

/-- Its text. -/
def RpcChainError.display : RpcChainError → String
  | .rpcUnavailable message => "chain RPC unavailable: " ++ message
  | .malformedRpcResponse message => "malformed chain RPC response: " ++ message
  | .providerHashMismatch context leftProvider leftHash rightProvider rightHash =>
    "RPC provider hash mismatch for " ++ context ++ ": " ++ leftProvider ++ " returned "
      ++ hashDisplay leftHash ++ ", " ++ rightProvider ++ " returned " ++ hashDisplay rightHash
  | .invalidBlockRange fromBlock toBlock =>
    "invalid block range " ++ toString fromBlock ++ "..=" ++ toString toBlock
  | .blockNotFound number => "block not found: " ++ toString number
  | .transactionNotFound txHash => "transaction not found: " ++ hashDisplay txHash
  | .chainIdMismatch expected actual =>
    "configured chain id " ++ toString expected ++ " does not match provider chain id "
      ++ toString actual
  | .capacityExceeded logCount maxLogs =>
    "transfer log source capacity exceeded: " ++ toString logCount ++ " logs, max "
      ++ toString maxLogs

/-- The block header as the program uses it. -/
structure BlockHeader where
  number : ℕ
  hash : BlockHash
  parentHash : BlockHash
  timestamp : Timestamp
  deriving DecidableEq

/-- `block_ref`. -/
def BlockHeader.blockRef (b : BlockHeader) : ChainBlockRef := ⟨b.number, b.hash⟩

/-- `ProviderBlock`. -/
structure ProviderBlock where
  providerId : String
  block : BlockHeader
  deriving DecidableEq

/-! ## The libraries -/

/-- The seconds of the years -9999 to 9999. -/
def InCalendar (secs : Int) : Prop := -377705116800 ≤ secs ∧ secs ≤ 253402300799

instance (secs : Int) : Decidable (InCalendar secs) :=
  inferInstanceAs (Decidable (-377705116800 ≤ secs ∧ secs ≤ 253402300799))

/-- **What answers are read with**: the text of the error with which
`serde_json::from_value` turns a value down, and
`OffsetDateTime::from_unix_timestamp`, which takes the years -9999 to 9999. -/
structure RpcLibraries where
  serdeError : JsonValue → String
  fromUnixTimestamp : Int → Except String Timestamp
  in_calendar : ∀ secs, InCalendar secs → fromUnixTimestamp secs = .ok (secs * 1000000)
  out_of_calendar : ∀ secs, ¬ InCalendar secs → ∃ message, fromUnixTimestamp secs = .error message

/-- What the calendar makes of a number of seconds. -/
theorem RpcLibraries.fromUnixTimestamp_eq_ok {libs : RpcLibraries} {secs : Int} {t : Timestamp} :
    libs.fromUnixTimestamp secs = .ok t ↔ InCalendar secs ∧ t = secs * 1000000 := by
  by_cases hin : InCalendar secs
  · rw [libs.in_calendar secs hin, Except.ok.injEq]
    exact ⟨fun h => ⟨hin, h.symm⟩, fun h => h.2.symm⟩
  · obtain ⟨message, herror⟩ := libs.out_of_calendar secs hin
    rw [herror]
    exact iff_of_false nofun (fun h => hin h.1)

/-- A calendar that gives no reasons. -/
def plainCalendar (secs : Int) : Except String Timestamp :=
  if InCalendar secs then .ok (secs * 1000000) else .error ""

theorem plainCalendar_in (secs : Int) (h : InCalendar secs) :
    plainCalendar secs = .ok (secs * 1000000) :=
  if_pos h

theorem plainCalendar_out (secs : Int) (h : ¬ InCalendar secs) :
    ∃ message, plainCalendar secs = .error message :=
  ⟨"", if_neg h⟩

/-- Libraries whose errors have no texts. -/
def plainLibraries : RpcLibraries :=
  ⟨fun _ => "", plainCalendar, plainCalendar_in, plainCalendar_out⟩

section Parsing

variable (libs : RpcLibraries)

/-- A text that has to be there. -/
def requiredText (value : Option String) (field : String) : Except RpcChainError String :=
  orError value (.malformedRpcResponse (field ++ " is missing from RPC response"))

/-- `parse_hex_u64`. -/
def parseHexU64 (value field : String) : Except RpcChainError ℕ := do
  let hex ← orError (stripHexPrefix value)
    (.malformedRpcResponse (field ++ " must be a 0x-prefixed hex quantity"))
  if hex.isEmpty then pure 0
  else if 16 < hex.length then .error (.malformedRpcResponse (field ++ " overflows u64"))
  else orError (fromStrRadix16 hex) (.malformedRpcResponse (field ++ " contains invalid hex"))

/-- `parse_required_hex_u64`. -/
def parseRequiredHexU64 (value : Option String) (field : String) : Except RpcChainError ℕ := do
  parseHexU64 (← requiredText value field) field

/-- A fixed number of bytes in hexadecimal, for a field. -/
def parseFixed (n : ℕ) (kind value field : String) : Except RpcChainError (BitVec (8 * n)) :=
  (decodePrefixedFixed n value kind).mapError
    (fun error => .malformedRpcResponse (field ++ ": " ++ error.display))

/-- `parse_required_block_hash`. -/
def parseRequiredBlockHash (value : Option String) (field : String) :
    Except RpcChainError BlockHash := do
  parseFixed 32 "block hash" (← requiredText value field) field

/-- `parse_required_tx_hash`. -/
def parseRequiredTxHash (value : Option String) (field : String) :
    Except RpcChainError TxHash := do
  parseFixed 32 "tx hash" (← requiredText value field) field

/-- `parse_address`. -/
def parseAddress (value field : String) : Except RpcChainError EvmAddress :=
  parseFixed 20 "evm address" value field

/-- `timestamp as i64`. -/
def wrapI64 (n : ℕ) : Int := if n < 2 ^ 63 then n else (n : Int) - 2 ^ 64

/-- The values of `RpcBlock`, in its order: number, hash, parent hash, timestamp. -/
def rpcBlock (value : JsonValue) : Option (List (Option String)) := do
  (← value.structFields ["number", "hash", "parentHash", "timestamp"]).mapM
    JsonValue.asOptionString

/-- **`parse_block`.** -/
def parseBlock (value : JsonValue) (providerId : String) : Except RpcChainError ProviderBlock := do
  match rpcBlock value with
  | some [number, hash, parentHash, timestamp] =>
    let number ← parseRequiredHexU64 number "block.number"
    let hash ← parseRequiredBlockHash hash "block.hash"
    let parentHash ← parseRequiredBlockHash parentHash "block.parentHash"
    let timestamp ← parseRequiredHexU64 timestamp "block.timestamp"
    let timestamp ← (libs.fromUnixTimestamp (wrapI64 timestamp)).mapError .malformedRpcResponse
    pure ⟨providerId, ⟨number, hash, parentHash, timestamp⟩⟩
  | _ => .error (.malformedRpcResponse (libs.serdeError value))

/-! ## Transfer logs -/

/-- `ERC20_TRANSFER_TOPIC`. -/
def erc20TransferTopic : String :=
  "0xddf252ad1be2c89b69c2b068fc378daa952ba7f163c4a11628f55a4df523b3ef"

/-- A letter of the Latin alphabet in lower case. -/
def asciiLowercase (byte : UInt8) : UInt8 := if 65 ≤ byte ∧ byte ≤ 90 then byte + 32 else byte

/-- `eq_ignore_ascii_case`. -/
def eqIgnoreAsciiCase (a b : String) : Bool :=
  decide ((utf8 a).map asciiLowercase = (utf8 b).map asciiLowercase)

/-- `parse_hex_u256`; an odd number of digits is taken with a leading zero. -/
def parseHexU256 (value field : String) : Except RpcChainError RawAmount := do
  let hex ← orError (stripHexPrefix value)
    (.malformedRpcResponse (field ++ " must be 0x-prefixed hex"))
  let hex := if hex.length % 2 = 0 then hex else 48 :: hex
  let bytes ← (hexPairs 0 hex).mapError (fun index =>
    .malformedRpcResponse (field ++ " contains invalid hex at char " ++ toString index))
  ensure (decide (bytes.length ≤ 32)) (.malformedRpcResponse (field ++ " overflows uint256"))
  pure (BitVec.ofNat 256 (digitsValue 256 bytes))

/-- `parse_topic_address`: an address padded to 32 bytes. -/
def parseTopicAddress (value field : String) : Except RpcChainError EvmAddress := do
  let hex ← orError (stripHexPrefix value)
    (.malformedRpcResponse (field ++ " must be a 0x-prefixed topic"))
  ensure (decide (hex.length = 64)) (.malformedRpcResponse (field ++ " must contain 64 hex chars"))
  ensure ((hex.take 24).all (fun byte => decide (byte = 48)))
    (.malformedRpcResponse (field ++ " contains non-zero padding in high 12 bytes"))
  (decodeFixed 20 (hex.drop 24) "evm address").mapError
    (fun error => .malformedRpcResponse (field ++ ": " ++ error.display))

/-- `RpcLog`. -/
structure RpcLog where
  address : String
  topics : List String
  data : String
  blockNumber : Option String
  blockHash : Option String
  transactionHash : Option String
  logIndex : Option String
  deriving DecidableEq

/-- The fields of `RpcLog`, each of its type. -/
def rpcLog (value : JsonValue) : Option RpcLog := do
  match ← value.structFields ["address", "topics", "data", "blockNumber", "blockHash",
      "transactionHash", "logIndex"] with
  | [address, topics, data, blockNumber, blockHash, transactionHash, logIndex] =>
    pure ⟨← address.asString, ← topics.asStrings, ← data.asString, ← blockNumber.asOptionString,
      ← blockHash.asOptionString, ← transactionHash.asOptionString, ← logIndex.asOptionString⟩
  | _ => none

/-- **`parse_transfer_log`.** -/
def parseTransferLog (value : JsonValue) : Except RpcChainError ParsedTransferLog := do
  let log ← orError (rpcLog value) (.malformedRpcResponse (libs.serdeError value))
  let tokenAddress ← parseAddress log.address "log.address"
  let blockNumber ← parseRequiredHexU64 log.blockNumber "log.blockNumber"
  let blockHash ← parseRequiredBlockHash log.blockHash "log.blockHash"
  let txHash ← parseRequiredTxHash log.transactionHash "log.transactionHash"
  let logIndex ← parseRequiredHexU64 log.logIndex "log.logIndex"
  match log.topics with
  | topic :: fromTopic :: toTopic :: _ =>
    ensure (eqIgnoreAsciiCase topic erc20TransferTopic)
      (.malformedRpcResponse "eth_getLogs returned a non-Transfer event")
    let fromAddress ← parseTopicAddress fromTopic "log.topics[1]"
    let toAddress ← parseTopicAddress toTopic "log.topics[2]"
    let amountRaw ← parseHexU256 log.data "log.data"
    pure ⟨⟨tokenAddress, txHash, logIndex, fromAddress, toAddress, amountRaw⟩, blockNumber,
      blockHash⟩
  | topics => .error (.malformedRpcResponse
      ("ERC20 Transfer log has " ++ toString topics.length ++ " topics"))

end Parsing
