import Pay3.Panics
import Pay3.ReceiptLookup

/-!
# What a provider's answer can do to its reader

Any JSON value may come back from a provider, with any text in it. The functions that
read it return an error for what they cannot read, and the scanner goes on. They also
index and slice, and those steps panic when they are out of bounds: the task that reads
the answer is then gone.

Here the functions are as in the source, with every index, slice and `expect` a step that
may panic. Nearly all of them are guarded. One is not: an address in a topic is cut out
of a text that is 64 bytes long, at byte 24, and nothing says that a character begins
there. So a topic with a character of several bytes across that place ends the task.
-/

namespace ProviderPanics

open Panicking

/-! ## Hexadecimal text -/

section Loops

variable {ε : Type} (invalid : ℕ → ε) (store : List ℕ → ℕ → ℕ → Except (Fault ε) (List ℕ))

/-- The loop of `decode_prefixed_fixed` and of `decode_prefixed_hex`: two digits a byte,
which is stored in its place. -/
def hexLoop (bytes : List ℕ) (i : ℕ) : List (List UInt8) → Except (Fault ε) (List ℕ)
  | [] => .ok bytes
  | chunk :: chunks => do
    let first ← index chunk 0
    let high ← returns (orError (hexValue first) (invalid (i * 2)))
    let second ← index chunk 1
    let low ← returns (orError (hexValue second) (invalid (i * 2 + 1)))
    let bytes ← store bytes i (high * 16 + low)
    hexLoop bytes (i + 1) chunks

variable {invalid store}

/-- **The loop does not panic if the bytes can be stored.** `rep` is what is kept when some
bytes are read. -/
theorem hexLoop_eq (rep : List ℕ → List ℕ) {k : ℕ} {hex : List UInt8} (hk : hex.length / 2 = k) :
    ∀ {done : List ℕ},
    (∀ bytes byte, done.length ≤ bytes.length → bytes.length < done.length + k →
      store (rep bytes) bytes.length byte = .ok (rep (bytes ++ [byte]))) →
    hexLoop invalid store (rep done) done.length (chunksExact2 hex)
      = returns (((hexPairs (done.length * 2) hex).mapError invalid).map
        (fun bytes => rep (done ++ bytes))) := by
  induction k generalizing hex with
  | zero =>
    intro done hstore
    rcases hex with _ | ⟨a, _ | ⟨b, rest⟩⟩
    · simp [chunksExact2, hexLoop, hexPairs, Except.map, Except.mapError, pure, Except.pure]
    · simp [chunksExact2, hexLoop, hexPairs, Except.map, Except.mapError, pure, Except.pure]
    · simp only [List.length_cons] at hk
      omega
  | succ k ih =>
    intro done hstore
    rcases hex with _ | ⟨a, _ | ⟨b, rest⟩⟩
    · simp at hk
    · simp at hk
    · have hrest : rest.length / 2 = k := by
        simp only [List.length_cons] at hk
        omega
      rw [chunksExact2, hexLoop, hexPairs]
      cases hhigh : hexValue a with
      | none =>
        simp [index, orError, hhigh, Except.map, Except.mapError, Bind.bind, Except.bind]
      | some high =>
        cases hlow : hexValue b with
        | none =>
          simp [index, orError, hlow, hhigh, Except.map, Except.mapError, Bind.bind, Except.bind]
        | some low =>
          have hnext := @ih rest hrest (done ++ [high * 16 + low]) (by
            intro bytes byte hle hlt
            rw [List.length_append, List.length_singleton] at hle hlt
            exact hstore bytes byte (by omega) (by omega))
          have hput := hstore done (high * 16 + low) le_rfl (by omega)
          rw [List.length_append, List.length_singleton, Nat.add_mul, Nat.one_mul] at hnext
          simp only [index, orError, hlow, hhigh, List.getElem?_cons_zero, List.getElem?_cons_succ,
            Bind.bind, Except.bind, returns_ok, hput, hnext]
          cases hexPairs (done.length * 2 + 2) rest with
          | error e => rfl
          | ok bytes =>
            simp [Except.map, Except.mapError, pure, Except.pure]

end Loops

/-- The digits after the prefix, for `decode_prefixed_fixed`; the array has `n` places. -/
def decodeFixed (n : ℕ) (hex : List UInt8) (kind : String) :
    Except (Fault HexParseError) (BitVec (8 * n)) := do
  returns (ensure (decide (hex.length = n * 2)) (.invalidLength kind (n * 2) hex.length))
  let bytes ← hexLoop (HexParseError.invalidHex kind) setIndex (List.replicate n 0) 0
    (chunksExact2 hex)
  pure (BitVec.ofNat (8 * n) (digitsValue 256 bytes))

/-- `decode_prefixed_fixed`. -/
def decodePrefixedFixed (n : ℕ) (input kind : String) :
    Except (Fault HexParseError) (BitVec (8 * n)) := do
  let hex ← returns (orError (stripHexPrefix input) (.missingPrefix kind))
  decodeFixed n hex kind

/-- A zero in front of an odd number of digits. -/
def evenNibbles (hex : List UInt8) : Except (Fault RpcChainError) (List UInt8) :=
  if hex.length % 2 = 0 then .ok hex else insertAt hex 0 48

/-- `Vec::push`. -/
def push (bytes : List ℕ) (_ byte : ℕ) : Except (Fault RpcChainError) (List ℕ) :=
  .ok (bytes ++ [byte])

/-- `decode_prefixed_hex`, where an odd number of digits is allowed; a `Vec` is pushed to. -/
def decodePrefixedHex (value field : String) : Except (Fault RpcChainError) (List ℕ) := do
  let hex ← returns (orError (stripHexPrefix value)
    (.malformedRpcResponse (field ++ " must be 0x-prefixed hex")))
  if hex.isEmpty then .ok []
  else do
    let hex ← evenNibbles hex
    hexLoop (fun i => .malformedRpcResponse (field ++ " contains invalid hex at char " ++ toString i))
      push [] 0 (chunksExact2 hex)

/-- The error of a field. -/
def fieldError (field : String) (error : HexParseError) : RpcChainError :=
  .malformedRpcResponse (field ++ ": " ++ error.display)

/-- A fixed number of bytes in hexadecimal, for a field: `parse_block_hash`,
`parse_tx_hash` and `parse_address`. -/
def parseFixed (n : ℕ) (kind value field : String) :
    Except (Fault RpcChainError) (BitVec (8 * n)) :=
  (decodePrefixedFixed n value kind).mapError (Fault.map (fieldError field))

/-- `parse_required_block_hash`, and `parse_required_tx_hash`. -/
def parseRequiredHash (kind : String) (value : Option String) (field : String) :
    Except (Fault RpcChainError) (BitVec 256) := do
  let value ← returns (requiredText value field)
  parseFixed 32 kind value field

/-- `parse_hex_u256`. -/
def parseHexU256 (value field : String) : Except (Fault RpcChainError) RawAmount := do
  let bytes ← decodePrefixedHex value field
  returns (ensure (decide (bytes.length ≤ 32))
    (.malformedRpcResponse (field ++ " overflows uint256")))
  pure (BitVec.ofNat 256 (digitsValue 256 bytes))

/-- **`parse_topic_address`**: the text is sliced twice at byte 24. -/
def parseTopicAddress (value field : String) : Except (Fault RpcChainError) EvmAddress := do
  let hex ← returns (orError (stripHexPrefix value)
    (.malformedRpcResponse (field ++ " must be a 0x-prefixed topic")))
  returns (ensure (decide (hex.length = 64))
    (.malformedRpcResponse (field ++ " must contain 64 hex chars")))
  let high ← sliceTo hex 24
  returns (ensure (high.all (fun byte => decide (byte = 48)))
    (.malformedRpcResponse (field ++ " contains non-zero padding in high 12 bytes")))
  let low ← sliceFrom hex 24
  (decodeFixed 20 low "evm address").mapError (Fault.map (fieldError field))

/-! ## Answers -/

section Answers

variable (libs : RpcLibraries)

/-- **`parse_block`.** -/
def parseBlock (value : JsonValue) (providerId : String) :
    Except (Fault RpcChainError) ProviderBlock :=
  match rpcBlock value with
  | some [number, hash, parentHash, timestamp] => do
    let number ← returns (parseRequiredHexU64 number "block.number")
    let hash ← parseRequiredHash "block hash" hash "block.hash"
    let parentHash ← parseRequiredHash "block hash" parentHash "block.parentHash"
    let timestamp ← returns (parseRequiredHexU64 timestamp "block.timestamp")
    let timestamp ← returns
      ((libs.fromUnixTimestamp (wrapI64 timestamp)).mapError .malformedRpcResponse)
    pure ⟨providerId, ⟨number, hash, parentHash, timestamp⟩⟩
  | _ => .error (.error (.malformedRpcResponse (libs.serdeError value)))

/-- **`parse_transfer_log`**: three topics are taken by their index. -/
def parseTransferLog (value : JsonValue) : Except (Fault RpcChainError) ParsedTransferLog := do
  let log ← returns (orError (rpcLog value) (.malformedRpcResponse (libs.serdeError value)))
  let tokenAddress ← parseFixed 20 "evm address" log.address "log.address"
  let blockNumber ← returns (parseRequiredHexU64 log.blockNumber "log.blockNumber")
  let blockHash ← parseRequiredHash "block hash" log.blockHash "log.blockHash"
  let txHash ← parseRequiredHash "tx hash" log.transactionHash "log.transactionHash"
  let logIndex ← returns (parseRequiredHexU64 log.logIndex "log.logIndex")
  returns (ensure (decide (3 ≤ log.topics.length)) (.malformedRpcResponse
    ("ERC20 Transfer log has " ++ toString log.topics.length ++ " topics")))
  let topic ← index log.topics 0
  returns (ensure (eqIgnoreAsciiCase topic erc20TransferTopic)
    (.malformedRpcResponse "eth_getLogs returned a non-Transfer event"))
  let fromTopic ← index log.topics 1
  let fromAddress ← parseTopicAddress fromTopic "log.topics[1]"
  let toTopic ← index log.topics 2
  let toAddress ← parseTopicAddress toTopic "log.topics[2]"
  let amountRaw ← parseHexU256 log.data "log.data"
  pure ⟨⟨tokenAddress, txHash, logIndex, fromAddress, toAddress, amountRaw⟩, blockNumber,
    blockHash⟩

/-- The gas used of a receipt, if it is there. -/
def checkGasUsed (gasUsed : Option String) : Except RpcChainError Unit :=
  match gasUsed with
  | some gasUsed => (parseHexU64 gasUsed "receipt.gasUsed").map (fun _ => ())
  | none => .ok ()

/-- **`parse_receipt`.** -/
def parseReceipt (value : JsonValue) : Except (Fault RpcChainError) TxReceipt := do
  let receipt ← returns (orError (rpcReceipt value) (.malformedRpcResponse (libs.serdeError value)))
  let txHash ← parseFixed 32 "tx hash" receipt.transactionHash "receipt.transactionHash"
  let blockNumber ← returns (parseRequiredHexU64 receipt.blockNumber "receipt.blockNumber")
  let blockHash ← parseRequiredHash "block hash" receipt.blockHash "receipt.blockHash"
  let status ← returns (receiptStatus receipt.status)
  returns (checkGasUsed receipt.gasUsed)
  pure ⟨txHash, ⟨blockNumber, blockHash⟩, status⟩

/-! ## The requests -/

section Requests

variable (answers : ℕ → Answer) (context : String) (notFound : RpcChainError)

/-- The loop of `request_blocks`; a panic in `parse_block` would end it. -/
def requestBlocksFrom (providerCount : ℕ) (m : RpcProviderManager) (g : Gathered) :
    List ℕ → Except (Fault RpcChainError) (List ProviderBlock) × RpcProviderManager
  | [] => (returns (g.finish context notFound providerCount), m)
  | i :: rest =>
    match (answers i).response with
    | .ok .null => requestBlocksFrom providerCount m (g.missing (m.providerId i)) rest
    | .ok value =>
      match parseBlock libs value (m.providerId i) with
      | .ok block =>
        if m.minProviderCount ≤ (g.found block).blocks.length then
          (returns ((g.found block).consistent context), m.recordSuccess i)
        else requestBlocksFrom providerCount (m.recordSuccess i) (g.found block) rest
      | .error .panic => (.error .panic, m)
      | .error (.error error) =>
        requestBlocksFrom providerCount (m.recordFailure i (answers i).receivedAt)
          (g.failed (m.providerId i) error) rest
    | .error (.blockNotFound _) =>
      requestBlocksFrom providerCount m (g.missing (m.providerId i)) rest
    | .error error =>
      requestBlocksFrom providerCount
        (if isProviderHealthFailure error then m.recordFailure i (answers i).receivedAt else m)
        (g.failed (m.providerId i) error) rest

/-- `request_blocks`. -/
def requestBlocks (m : RpcProviderManager) (now : Instant) :
    Except (Fault RpcChainError) (List ProviderBlock) × RpcProviderManager :=
  requestBlocksFrom libs answers context notFound (m.providerCandidates now).length
    m.advanced ⟨[], [], 0⟩ (m.providerCandidates now)

end Requests

/-- **`block_by_number`**, where a block is expected in the list. -/
def blockByNumber (call : PoolCall) (number : ℕ) : Except (Fault RpcChainError) BlockHeader := do
  let blocks ← (requestBlocks libs call.answers ("block " ++ toString number)
    (.blockNotFound number) call.manager call.now).1
  let b ← expect (selectConservativeHead blocks)
  pure b.block

/-- **`transfer_logs`.** -/
def transferLogs (calls : RangeCalls) (range : TransferLogRange) :
    Except (Fault RpcChainError) (List TransferLog) := do
  returns range.validate
  let chainId := calls.logs.manager.expectedChainId
  returns (ensure (decide (range.chainId = chainId)) (.chainIdMismatch range.chainId chainId))
  let answer ← returns (calls.logs.manager.requestFirstSuccess calls.logs.answers calls.logs.now
    "eth_getLogs").1
  let rawLogs ← returns (orError answer.2.asArray
    (.malformedRpcResponse "eth_getLogs result must be an array"))
  let parsed ← collectOk (parseTransferLog libs)
    (rawLogs.filter (fun rawLog => !RpcRangeSource.isRemoved rawLog))
  let parsed := parsed.filter (fun log => decide (log.tokenAddress = range.tokenAddress))
  let headers ← collectOk (fun number => (blockByNumber libs (calls.header number) number).map
      (fun b => (number, b)))
    (sortedSet (parsed.map ParsedTransferLog.blockNumber))
  let logs ← returns (collectOk (RpcRangeSource.attachHeader range answer.1 headers) parsed)
  pure (logs.insertionSort (fun a b => a.blockNumber < b.blockNumber ∨
    (a.blockNumber = b.blockNumber ∧ a.logIndex ≤ b.logIndex)))

/-- **`transaction_receipt`.** -/
def transactionReceipt (call : PoolCall) : Except (Fault RpcChainError) (Option TxReceipt) :=
  match (call.manager.requestFirstSuccess call.answers call.now receiptMethod).1 with
  | .error error => if isTransientReceiptLookupError error then .ok none else .error (.error error)
  | .ok (_, .null) => .ok none
  | .ok (_, value) => (parseReceipt libs value).map some

end Answers

end ProviderPanics

/-! ## What cannot panic -/

section Returning

open Panicking

/-- As many bytes are read as there are pairs of digits. -/
theorem length_of_hexPairs {i k : ℕ} {hex : List UInt8} {bytes : List ℕ} (hk : hex.length = k * 2)
    (h : hexPairs i hex = .ok bytes) : bytes.length = k := by
  induction k generalizing i hex bytes with
  | zero =>
    obtain rfl : hex = [] := List.eq_nil_of_length_eq_zero (by omega)
    obtain rfl : [] = bytes := Except.ok.inj h
    rfl
  | succ k ih =>
    rcases hex with _ | ⟨a, _ | ⟨b, rest⟩⟩
    · simp at hk
    · simp at hk
      omega
    · rw [hexPairs] at h
      obtain ⟨high, -, h⟩ := Except.bind_eq_ok.mp h
      obtain ⟨low, -, h⟩ := Except.bind_eq_ok.mp h
      obtain ⟨tail, htail, h⟩ := Except.bind_eq_ok.mp h
      rw [← Except.pure_eq_ok.mp h, List.length_cons, ih (by simp at hk; omega) htail]

/-- The array has room for the bytes. -/
theorem hexLoop_setIndex {n : ℕ} {hex : List UInt8} {kind : String} (h : hex.length = n * 2) :
    ProviderPanics.hexLoop (HexParseError.invalidHex kind) setIndex (List.replicate n 0) 0
        (chunksExact2 hex)
      = returns ((hexPairs 0 hex).mapError (.invalidHex kind)) := by
  have hloop := @ProviderPanics.hexLoop_eq _ (HexParseError.invalidHex kind) setIndex
    (fun done => done ++ List.replicate (n - done.length) 0) n hex (by omega) [] (by
      intro bytes byte _ hlt
      rw [List.length_nil, Nat.zero_add] at hlt
      obtain ⟨k, hk⟩ := Nat.exists_eq_succ_of_ne_zero (show n - bytes.length ≠ 0 by omega)
      unfold setIndex
      rw [if_pos (by simp; omega), hk, List.set_append_right _ _ le_rfl, Nat.sub_self,
        List.replicate_succ, List.set_cons_zero, List.append_assoc, List.length_append,
        List.length_singleton, show n - (bytes.length + 1) = k by omega]
      rfl)
  rw [List.nil_append, List.length_nil, Nat.sub_zero, Nat.zero_mul] at hloop
  rw [hloop]
  cases hpairs : hexPairs 0 hex with
  | error e => rfl
  | ok bytes =>
    simp only [Except.mapError, Except.map, List.nil_append, returns_ok,
      length_of_hexPairs h hpairs, Nat.sub_self, List.replicate_zero, List.append_nil]

theorem hexLoop_push {hex : List UInt8} {invalid : ℕ → RpcChainError} :
    ProviderPanics.hexLoop invalid ProviderPanics.push [] 0 (chunksExact2 hex)
      = returns ((hexPairs 0 hex).mapError invalid) := by
  have hloop := @ProviderPanics.hexLoop_eq _ invalid ProviderPanics.push id _ hex rfl []
    (fun _ _ _ _ => rfl)
  rw [id, List.length_nil, Nat.zero_mul] at hloop
  rw [hloop]
  cases hexPairs 0 hex with
  | error e => rfl
  | ok bytes => rfl

theorem returns_decodeFixed (n : ℕ) (hex : List UInt8) (kind : String) :
    ProviderPanics.decodeFixed n hex kind = returns (decodeFixed n hex kind) := by
  unfold ProviderPanics.decodeFixed decodeFixed
  by_cases hlength : hex.length = n * 2
  · simp only [hexLoop_setIndex hlength, returns_bind, returns_pure]
  · rw [decide_eq_false hlength]
    rfl

theorem returns_parseFixed (n : ℕ) (kind value field : String) :
    ProviderPanics.parseFixed n kind value field = returns (parseFixed n kind value field) := by
  unfold ProviderPanics.parseFixed ProviderPanics.decodePrefixedFixed parseFixed
    decodePrefixedFixed
  simp only [returns_decodeFixed, ← returns_bind, mapError_returns]
  rfl

theorem returns_parseRequiredHash (kind : String) (value : Option String) (field : String) :
    ProviderPanics.parseRequiredHash kind value field
      = returns (requiredText value field >>= fun text => parseFixed 32 kind text field) := by
  unfold ProviderPanics.parseRequiredHash
  simp only [returns_parseFixed, returns_bind]

/-- A text of no digits is no bytes, and the zero is inserted at the beginning. -/
theorem returns_parseHexU256 (value field : String) :
    ProviderPanics.parseHexU256 value field = returns (parseHexU256 value field) := by
  unfold ProviderPanics.parseHexU256 ProviderPanics.decodePrefixedHex parseHexU256
  cases stripHexPrefix value with
  | none => rfl
  | some hex =>
    have heven : ProviderPanics.evenNibbles hex
        = returns (.ok (if hex.length % 2 = 0 then hex else 48 :: hex)) := by
      unfold ProviderPanics.evenNibbles
      split_ifs <;> rfl
    cases hex with
    | nil => rfl
    | cons digit hex =>
      simp only [orError, returns_bind, returns_pure, returns_ok, ok_bind, heven, hexLoop_push,
        List.isEmpty_cons, Bool.false_eq_true, if_false]

theorem returns_parseBlock (libs : RpcLibraries) (value : JsonValue)
    (providerId : String) :
    ProviderPanics.parseBlock libs value providerId
      = returns (parseBlock libs value providerId) := by
  unfold ProviderPanics.parseBlock parseBlock
  generalize rpcBlock value = fields
  rcases fields with _ | _ | ⟨number, _ | ⟨hash, _ | ⟨parentHash, _ | ⟨timestamp, _ | _⟩⟩⟩⟩
  case some.cons.cons.cons.cons.nil =>
    simp only [returns_parseRequiredHash, returns_bind, returns_pure, parseRequiredBlockHash]
  all_goals rfl

theorem returns_parseReceipt (libs : RpcLibraries) (value : JsonValue) :
    ProviderPanics.parseReceipt libs value = returns (parseReceipt libs value) := by
  unfold ProviderPanics.parseReceipt parseReceipt
  simp only [returns_parseFixed, returns_parseRequiredHash, returns_bind, parseRequiredBlockHash]
  congr 1
  funext receipt
  congr 1
  funext txHash
  congr 1
  funext blockNumber
  congr 1
  funext blockHash
  congr 1
  funext status
  cases receipt.gasUsed with
  | none => rfl
  | some gasUsed =>
    unfold ProviderPanics.checkGasUsed
    dsimp only
    cases parseHexU64 gasUsed "receipt.gasUsed" with
    | error e => rfl
    | ok gas => rfl

/-! ## The topic that does -/

/-- **A topic that is cut inside a character**: 64 bytes after the prefix, and no
character begins at byte 24 of them. -/
def CutTopic (value : String) : Prop :=
  ∃ hex, stripHexPrefix value = some hex ∧ hex.length = 64 ∧ isCharBoundary hex 24 = false

/-- A byte that continues a character is no digit. -/
theorem exists_of_not_boundary {hex : List UInt8} (hlength : hex.length = 64)
    (h : isCharBoundary hex 24 = false) :
    ∃ byte rest, hex.drop 24 = byte :: rest ∧ hexValue byte = none := by
  cases hdrop : hex.drop 24 with
  | nil =>
    have hnil := congrArg List.length hdrop
    rw [List.length_drop, List.length_nil] at hnil
    omega
  | cons byte rest =>
    have hbyte : hex[24]? = some byte := by
      rw [← List.head?_drop, hdrop, List.head?_cons]
    unfold isCharBoundary at h
    rw [if_neg (by decide), hbyte] at h
    refine ⟨byte, rest, rfl, ?_⟩
    simp only [Bool.or_eq_false_iff, decide_eq_false_iff_not, UInt8.lt_iff_toNat_lt,
      UInt8.le_iff_toNat_le, UInt8.reduceToNat] at h
    unfold hexValue
    simp only [UInt8.le_iff_toNat_le, UInt8.reduceToNat]
    rw [if_neg (by omega), if_neg (by omega), if_neg (by omega)]

theorem decodeFixed_eq_error {n : ℕ} {hex rest : List UInt8} {byte : UInt8} {kind : String}
    (hhex : hex = byte :: rest) (hbyte : hexValue byte = none) :
    ∃ e, decodeFixed n hex kind = .error e := by
  cases hresult : decodeFixed n hex kind with
  | error e => exact ⟨e, rfl⟩
  | ok value =>
    unfold decodeFixed at hresult
    obtain ⟨hlength, hresult⟩ := ensure_bind_eq_ok.mp hresult
    obtain ⟨bytes, hbytes, -⟩ := Except.bind_eq_ok.mp hresult
    have hpairs := Except.mapError_eq_ok.mp hbytes
    rw [hhex] at hpairs hlength
    cases rest with
    | nil =>
      have hodd : 1 = n * 2 := of_decide_eq_true hlength
      omega
    | cons second rest =>
      rw [hexPairs, hbyte] at hpairs
      cases hpairs

/-- **A topic is read unless it is cut**, and a topic that is cut is no address. -/
theorem panicsOr_parseTopicAddress (value field : String) :
    PanicsOr (ProviderPanics.parseTopicAddress value field) (parseTopicAddress value field) := by
  unfold ProviderPanics.parseTopicAddress parseTopicAddress
  refine (panicsOr_returns _).bind (fun hex _ => ?_)
  refine (panicsOr_returns _).bind (fun _ hensure => ?_)
  have hlength : hex.length = 64 := by simpa using ensure_eq_ok.mp hensure
  unfold sliceTo sliceFrom
  by_cases hcut : isCharBoundary hex 24 = true
  · rw [if_pos hcut, ok_bind]
    refine (panicsOr_returns _).bind (fun _ _ => ?_)
    rw [if_pos hcut, ok_bind, returns_decodeFixed, mapError_returns]
    exact panicsOr_returns _
  · obtain ⟨byte, rest, hdrop, hbyte⟩ :=
      exists_of_not_boundary hlength (Bool.eq_false_of_not_eq_true hcut)
    rw [if_neg hcut]
    refine Or.inr ⟨rfl, ?_⟩
    obtain ⟨e, he⟩ := decodeFixed_eq_error hdrop hbyte
    rw [he]
    unfold ensure
    split_ifs
    · exact ⟨_, rfl⟩
    · exact ⟨_, rfl⟩

theorem parseTopicAddress_eq_panic {value field : String} :
    ProviderPanics.parseTopicAddress value field = .error .panic ↔ CutTopic value := by
  unfold ProviderPanics.parseTopicAddress CutTopic
  rw [returns_bind_eq_panic]
  constructor
  · rintro ⟨hex, hhex, h⟩
    obtain ⟨_, hensure, h⟩ := returns_bind_eq_panic.mp h
    refine ⟨hex, orError_eq_ok.mp hhex, by simpa using ensure_eq_ok.mp hensure, ?_⟩
    by_contra hcut
    have hboundary : isCharBoundary hex 24 = true := by simpa using hcut
    unfold sliceTo sliceFrom at h
    rw [if_pos hboundary, ok_bind] at h
    obtain ⟨_, -, h⟩ := returns_bind_eq_panic.mp h
    rw [if_pos hboundary, ok_bind, returns_decodeFixed, mapError_returns] at h
    exact returns_ne_panic _ h
  · rintro ⟨hex, hhex, hlength, hcut⟩
    refine ⟨hex, orError_eq_ok.mpr hhex, returns_bind_eq_panic.mpr ⟨(), ?_, ?_⟩⟩
    · rw [ensure_eq_ok, decide_eq_true hlength]
    · unfold sliceTo
      rw [hcut]
      rfl

/-! ## Logs -/

section Logs

variable (libs : RpcLibraries)

/-- The topics of a log are looked at: what is before them can be read, and the first of
them is the one of a transfer. -/
def ReachesTopics (value : JsonValue) (fromTopic toTopic : String) : Prop :=
  ∃ log topic rest, rpcLog value = some log
    ∧ (∃ a, parseAddress log.address "log.address" = .ok a)
    ∧ (∃ n, parseRequiredHexU64 log.blockNumber "log.blockNumber" = .ok n)
    ∧ (∃ hash, parseRequiredBlockHash log.blockHash "log.blockHash" = .ok hash)
    ∧ (∃ hash, parseRequiredTxHash log.transactionHash "log.transactionHash" = .ok hash)
    ∧ (∃ n, parseRequiredHexU64 log.logIndex "log.logIndex" = .ok n)
    ∧ log.topics = topic :: fromTopic :: toTopic :: rest
    ∧ eqIgnoreAsciiCase topic erc20TransferTopic = true

/-- **A log with a topic that is cut**; the second address is looked at only if the first
is one. -/
def CutLog (value : JsonValue) : Prop :=
  ∃ fromTopic toTopic, ReachesTopics value fromTopic toTopic
    ∧ (CutTopic fromTopic
      ∨ (∃ a, parseTopicAddress fromTopic "log.topics[1]" = .ok a) ∧ CutTopic toTopic)

variable {libs}

theorem panicsOr_parseTransferLog (value : JsonValue) :
    PanicsOr (ProviderPanics.parseTransferLog libs value)
      (parseTransferLog libs value) := by
  unfold ProviderPanics.parseTransferLog parseTransferLog
  simp only [returns_parseFixed, returns_parseRequiredHash, returns_parseHexU256]
  refine (panicsOr_returns _).bind (fun log _ => ?_)
  refine (panicsOr_returns _).bind (fun tokenAddress _ => ?_)
  refine (panicsOr_returns _).bind (fun blockNumber _ => ?_)
  refine (panicsOr_returns _).bind (fun blockHash _ => ?_)
  refine (panicsOr_returns _).bind (fun txHash _ => ?_)
  refine (panicsOr_returns _).bind (fun logIndex _ => ?_)
  rcases log.topics with _ | ⟨topic, _ | ⟨fromTopic, _ | ⟨toTopic, rest⟩⟩⟩
  case cons.cons.cons =>
    simp only [List.length_cons, Nat.le_add_left, decide_true, returns_ensure_true, ok_bind,
      index_cons_zero, index_cons_succ]
    refine (panicsOr_returns _).bind (fun _ _ => ?_)
    refine (panicsOr_parseTopicAddress _ _).bind (fun fromAddress _ => ?_)
    refine (panicsOr_parseTopicAddress _ _).bind (fun toAddress _ => ?_)
    exact (panicsOr_returns _).bind (fun amountRaw _ => Or.inl rfl)
  all_goals exact Or.inl rfl

/-- The first two addresses are where a log can panic. -/
theorem topicAddresses_eq_panic {fromTopic toTopic : String} {α : Type}
    {k : EvmAddress → EvmAddress → Except RpcChainError α} :
    (ProviderPanics.parseTopicAddress fromTopic "log.topics[1]" >>= fun fromAddress =>
      ProviderPanics.parseTopicAddress toTopic "log.topics[2]" >>= fun toAddress =>
        returns (k fromAddress toAddress)) = .error .panic
      ↔ CutTopic fromTopic
        ∨ (∃ a, parseTopicAddress fromTopic "log.topics[1]" = .ok a) ∧ CutTopic toTopic := by
  rw [bind_eq_error, parseTopicAddress_eq_panic]
  refine or_congr_right ?_
  constructor
  · rintro ⟨a, ha, h⟩
    refine ⟨⟨a, (panicsOr_parseTopicAddress _ _).eq_ok_iff.mp ha⟩, ?_⟩
    rcases bind_eq_error.mp h with h | ⟨b, -, h⟩
    · exact parseTopicAddress_eq_panic.mp h
    · exact absurd h (returns_ne_panic _)
  · rintro ⟨⟨a, ha⟩, h⟩
    exact ⟨a, (panicsOr_parseTopicAddress _ _).eq_ok_iff.mpr ha,
      bind_eq_error.mpr (Or.inl (parseTopicAddress_eq_panic.mpr h))⟩

/-- **A log panics exactly if it has a topic that is cut.** -/
theorem parseTransferLog_eq_panic {value : JsonValue} :
    ProviderPanics.parseTransferLog libs value = .error .panic ↔ CutLog value := by
  unfold ProviderPanics.parseTransferLog
  simp only [returns_parseFixed, returns_parseRequiredHash, returns_parseHexU256,
    returns_bind_eq_panic]
  constructor
  · rintro ⟨log, hlog, a, ha, number, hnumber, hash, hhash, tx, htx, i, hi, _, hthree, h⟩
    have hlength : 3 ≤ log.topics.length := by simpa using ensure_eq_ok.mp hthree
    obtain ⟨topic, fromTopic, toTopic, rest, htopics⟩ :
        ∃ topic fromTopic toTopic rest, log.topics = topic :: fromTopic :: toTopic :: rest := by
      generalize log.topics = topics at hlength
      rcases topics with _ | ⟨t, _ | ⟨f, _ | ⟨o, rest⟩⟩⟩
      case cons.cons.cons => exact ⟨t, f, o, rest, rfl⟩
      all_goals
        simp only [List.length_cons, List.length_nil] at hlength
        omega
    rw [htopics] at h
    simp only [ok_bind, index_cons_zero, index_cons_succ] at h
    obtain ⟨_, htopic, h⟩ := returns_bind_eq_panic.mp h
    refine ⟨fromTopic, toTopic, ⟨log, topic, rest, orError_eq_ok.mp hlog, ⟨a, ha⟩,
      ⟨number, hnumber⟩, ⟨hash, hhash⟩, ⟨tx, htx⟩, ⟨i, hi⟩, htopics, ensure_eq_ok.mp htopic⟩, ?_⟩
    simp only [← returns_pure, ← returns_bind] at h
    exact topicAddresses_eq_panic.mp h
  · rintro ⟨fromTopic, toTopic, ⟨log, topic, rest, hlog, ⟨a, ha⟩, ⟨number, hnumber⟩, ⟨hash, hhash⟩,
      ⟨tx, htx⟩, ⟨i, hi⟩, htopics, htopic⟩, hcut⟩
    refine ⟨log, orError_eq_ok.mpr hlog, a, ha, number, hnumber, hash, hhash, tx, htx, i, hi, (),
      ensure_eq_ok.mpr (by simp [htopics]), ?_⟩
    rw [htopics]
    simp only [ok_bind, index_cons_zero, index_cons_succ]
    refine returns_bind_eq_panic.mpr ⟨(), ensure_eq_ok.mpr htopic, ?_⟩
    simp only [← returns_pure, ← returns_bind]
    exact topicAddresses_eq_panic.mpr hcut

end Logs

/-! ## Requests -/

section Requests

variable {libs : RpcLibraries}

theorem returns_requestBlocksFrom {answers : ℕ → Answer} {context : String}
    {notFound : RpcChainError} {providerCount : ℕ} {m : RpcProviderManager} {g : Gathered}
    {candidates : List ℕ} :
    ProviderPanics.requestBlocksFrom libs answers context notFound providerCount m g candidates
      = (returns (RpcProviderManager.requestBlocksFrom libs answers context notFound
          providerCount m g candidates).1,
        (RpcProviderManager.requestBlocksFrom libs answers context notFound providerCount m g
          candidates).2) := by
  induction candidates generalizing m g with
  | nil => rfl
  | cons i rest ih =>
    unfold ProviderPanics.requestBlocksFrom RpcProviderManager.requestBlocksFrom
    simp only [returns_parseBlock, ih]
    cases (answers i).response with
    | error e => cases e <;> rfl
    | ok value =>
      cases hparse : parseBlock libs value (m.providerId i) with
      | error e => cases value <;> simp only [hparse, returns_error]
      | ok block =>
        cases value <;> simp only [hparse, returns_ok] <;> split_ifs <;> rfl

/-- The list of blocks is never empty. -/
theorem returns_blockByNumber (call : PoolCall) (number : ℕ) :
    ProviderPanics.blockByNumber libs call number
      = returns (call.manager.blockByNumber libs call.answers call.now number).1 := by
  unfold ProviderPanics.blockByNumber ProviderPanics.requestBlocks
    RpcProviderManager.blockByNumber RpcProviderManager.conservative
  rw [returns_requestBlocksFrom]
  show (returns (RpcProviderManager.requestBlocks libs call.answers call.manager call.now
      ("block " ++ toString number) (.blockNotFound number)).1 >>= _)
    = returns ((RpcProviderManager.requestBlocks libs call.answers call.manager call.now
      ("block " ++ toString number) (.blockNotFound number)).1 >>= _)
  cases hblocks : (RpcProviderManager.requestBlocks libs call.answers call.manager call.now
      ("block " ++ toString number) (.blockNotFound number)).1 with
  | error e => rfl
  | ok blocks =>
    have hne : blocks ≠ [] := (RpcProviderManager.requestBlocks_eq_ok.mp hblocks).2.1
    obtain ⟨b, hb⟩ : ∃ b, selectConservativeHead blocks = some b := by
      rw [← Option.isSome_iff_exists, Option.isSome_iff_ne_none]
      exact fun hnone => hne (List.argmin_eq_none.mp hnone)
    simp only [returns_ok, ok_bind, expect, hb, orError]
    rfl

theorem transactionReceipt_ne_panic (call : PoolCall) :
    ProviderPanics.transactionReceipt libs call ≠ .error .panic := by
  unfold ProviderPanics.transactionReceipt
  split
  · split_ifs <;> simp
  · simp
  · rw [returns_parseReceipt, map_returns]
    exact returns_ne_panic _

variable (libs) in
/-- **An answer with a log that panics**: the request is made, the first answer is an
array, and of the logs that were not taken back one has a topic that is cut, all before
it being read. -/
def CutAnswer (calls : RangeCalls) (range : TransferLogRange) : Prop :=
  range.fromBlock ≤ range.toBlock ∧ range.chainId = calls.logs.manager.expectedChainId
    ∧ ∃ i rawLogs, calls.logs.firstAnswering = some i
      ∧ (calls.logs.answers i).response = .ok (.array rawLogs)
      ∧ ∃ before log after,
        rawLogs.filter (fun rawLog => !RpcRangeSource.isRemoved rawLog) = before ++ log :: after
          ∧ (∀ l ∈ before, ∃ parsed, parseTransferLog libs l = .ok parsed) ∧ CutLog log

/-- **`transfer_logs` panics exactly on such an answer.** -/
theorem transferLogs_eq_panic {calls : RangeCalls} {range : TransferLogRange} :
    ProviderPanics.transferLogs libs calls range = .error .panic
      ↔ CutAnswer libs calls range := by
  unfold ProviderPanics.transferLogs
  simp only [returns_blockByNumber, map_returns, collectOk_returns, returns_bind_eq_panic]
  constructor
  · rintro ⟨_, hrange, _, hchain, ⟨providerId, value⟩, hanswer, rawLogs, hraw, h⟩
    obtain ⟨i, hi, hvalue⟩ := RpcProviderManager.requestFirstSuccess_eq_ok hanswer
    have harray : value = .array rawLogs := JsonValue.asArray_eq_some.mp (orError_eq_ok.mp hraw)
    rw [harray] at hvalue
    refine ⟨of_decide_eq_true (ensure_eq_ok.mp hrange), of_decide_eq_true (ensure_eq_ok.mp hchain),
      i, rawLogs, hi, hvalue, ?_⟩
    rcases bind_eq_error.mp h with h | ⟨parsed, -, h⟩
    · obtain ⟨before, log, after, hlogs, hbefore, hlog⟩ := collectOk_eq_error.mp h
      refine ⟨before, log, after, hlogs, fun l hl => ?_, parseTransferLog_eq_panic.mp hlog⟩
      obtain ⟨p, hp⟩ := hbefore l hl
      exact ⟨p, (panicsOr_parseTransferLog l).eq_ok_iff.mp hp⟩
    · -- the headers and the logs behind them are read without a panic
      obtain ⟨headers, -, h⟩ := returns_bind_eq_panic.mp h
      obtain ⟨logs, -, h⟩ := returns_bind_eq_panic.mp h
      cases h
  · rintro ⟨hrange, hchain, i, rawLogs, hi, hvalue, before, log, after, hlogs, hbefore, hlog⟩
    obtain ⟨providerId, hanswer⟩ := requestFirstSuccess_of_firstAnswering hi hvalue
    refine ⟨(), ensure_eq_ok.mpr (decide_eq_true hrange), (), ensure_eq_ok.mpr
      (decide_eq_true hchain), (providerId, .array rawLogs), hanswer, rawLogs, rfl, ?_⟩
    refine bind_eq_error.mpr (Or.inl (collectOk_eq_error.mpr ⟨before, log, after, hlogs, ?_,
      parseTransferLog_eq_panic.mpr hlog⟩))
    intro l hl
    obtain ⟨p, hp⟩ := hbefore l hl
    exact ⟨p, (panicsOr_parseTransferLog l).eq_ok_iff.mpr hp⟩

/-- Where it does not panic, `transfer_logs` answers as if no step could. -/
theorem panicsOr_transferLogs (calls : RangeCalls) (range : TransferLogRange) :
    PanicsOr (ProviderPanics.transferLogs libs calls range)
      (RpcRangeSource.transferLogs libs calls range) := by
  unfold ProviderPanics.transferLogs RpcRangeSource.transferLogs
  simp only [returns_blockByNumber, map_returns, collectOk_returns]
  refine (panicsOr_returns _).bind (fun _ _ => ?_)
  refine (panicsOr_returns _).bind (fun _ _ => ?_)
  refine (panicsOr_returns _).bind (fun answer _ => ?_)
  refine (panicsOr_returns _).bind (fun rawLogs _ => ?_)
  unfold RpcRangeSource.parsedLogs
  simp only [bind_assoc, pure_bind]
  refine (panicsOr_collectOk panicsOr_parseTransferLog _).bind (fun parsed _ => ?_)
  refine (panicsOr_returns _).bind (fun headers _ => ?_)
  exact (panicsOr_returns _).bind (fun logs _ => Or.inl rfl)

/-- **Reading an answer panics only where a topic is cut.** -/
theorem reading_returns_iff (libs : RpcLibraries) (calls : RangeCalls)
    (range : TransferLogRange) :
    (ProviderPanics.transferLogs libs calls range ≠ .error .panic
      ∧ (∀ call number, ProviderPanics.blockByNumber libs call number ≠ .error .panic)
      ∧ ∀ call, ProviderPanics.transactionReceipt libs call ≠ .error .panic)
    ↔ ¬CutAnswer libs calls range := by
  rw [ne_eq, transferLogs_eq_panic]
  constructor
  · exact fun h => h.1
  · refine fun h => ⟨h, fun call number => ?_, transactionReceipt_ne_panic⟩
    rw [returns_blockByNumber]
    exact returns_ne_panic _

end Requests

end Returning

namespace CutTopics

/-- Twenty-three zeros, a character of two bytes, and zeros up to 64 bytes. -/
def topic : String :=
  "0x" ++ String.ofList (List.replicate 23 '0' ++ 'é' :: List.replicate 39 '0')

/-- A transfer log with that topic for the sender. -/
def log : JsonValue :=
  .object [("address", .string ("0x" ++ String.ofList (List.replicate 40 '7'))),
    ("topics", .array [.string erc20TransferTopic, .string topic, .string topic]),
    ("data", .string "0x1"),
    ("blockNumber", .string "0xa"),
    ("blockHash", .string ("0x" ++ String.ofList (List.replicate 64 'a'))),
    ("transactionHash", .string ("0x" ++ String.ofList (List.replicate 64 'b'))),
    ("logIndex", .string "0x0")]

/-- A pool of one provider that answers with it. -/
def call : PoolCall := ⟨Outage.manager, 0, fun _ => ⟨.ok (.array [log]), 1⟩⟩

/-- The requests of a scan. -/
def calls : RangeCalls where
  logs := call
  header := fun _ => call
  head := call
  header_pool := fun _ => ⟨rfl, rfl, rfl⟩
  head_pool := ⟨rfl, rfl, rfl⟩

/-- **A topic with a letter `é` in it ends the task that reads it.** -/
theorem reading_panics :
    ProviderPanics.transferLogs plainLibraries calls ⟨1, 0x77, 0, 20, none⟩ = .error .panic := by
  decide +kernel

end CutTopics
