import Pay3.BlockQuorum
import Pay3.ScannerSystem

/-!
# Reading transfer logs over the pool

`transfer_logs` asks the pool for the logs of a range and takes the first
answer there is. The header of every block with a log in the answer is then
asked for as a block, from as many providers as the pool is configured for, and
the hash in the log has to be the one in the header.

`match_range` matches the logs to orders under the head of the pool. Other
tasks use the pool at the same time, so nothing is said of how the requests of
one call follow each other: each finds the pool in a state of its own.
-/

namespace RpcProviderManager

/-- Two states of one pool: only the health of its providers and the counter
move. -/
def SamePool (m m' : RpcProviderManager) : Prop :=
  m.expectedChainId = m'.expectedChainId ∧ m.minProviderCount = m'.minProviderCount
    ∧ m.providers.map ManagedRpcProvider.providerId = m'.providers.map ManagedRpcProvider.providerId

instance (m m' : RpcProviderManager) : Decidable (m.SamePool m') :=
  inferInstanceAs (Decidable (_ ∧ _))

end RpcProviderManager

/-- **One request to the pool**: the state it finds the pool in, when it is made,
and what each provider answers. -/
structure PoolCall where
  manager : RpcProviderManager
  now : Instant
  answers : ℕ → Answer

/-- **The requests of one `match_range`**: for the logs, for the header of a
block, and for the head. -/
structure RangeCalls where
  logs : PoolCall
  header : ℕ → PoolCall
  head : PoolCall
  header_pool : ∀ n, (header n).manager.SamePool logs.manager
  head_pool : head.manager.SamePool logs.manager

/-- `TransferLogRange::validate`. -/
def TransferLogRange.validate (range : TransferLogRange) : Except RpcChainError Unit :=
  ensure (decide (range.fromBlock ≤ range.toBlock))
    (.invalidBlockRange range.fromBlock range.toBlock)

namespace RpcRangeSource

section Source

variable (libs : RpcLibraries) (calls : RangeCalls) (range : TransferLogRange)

/-- The log was taken back by a reorganisation the provider saw. -/
def isRemoved (rawLog : JsonValue) : Bool :=
  match rawLog.get "removed" with
  | some (.bool true) => true
  | _ => false

/-- The logs of an answer: those of the token that were not taken back. One that
cannot be read spoils the answer, whichever token it is of. -/
def parsedLogs (rawLogs : List JsonValue) : Except RpcChainError (List ParsedTransferLog) := do
  let parsed ← collectOk (parseTransferLog libs)
    (rawLogs.filter (fun rawLog => !isRemoved rawLog))
  pure (parsed.filter (fun log => decide (log.tokenAddress = range.tokenAddress)))

/-- The header of a block with logs, under the number it was asked for by. -/
def fetchHeader (number : ℕ) : Except RpcChainError (ℕ × BlockHeader) :=
  let call := calls.header number
  (call.manager.blockByNumber libs call.answers call.now number).1.map (fun b => (number, b))

/-- The log with the header of its block, of which it takes number, hash and
time. -/
def attachHeader (providerId : String) (headers : List (ℕ × BlockHeader))
    (log : ParsedTransferLog) : Except RpcChainError TransferLog :=
  match headers.find? (fun h => decide (h.1 = log.blockNumber)) with
  | none => .error (.malformedRpcResponse
      ("missing header for log block " ++ toString log.blockNumber))
  | some (_, header) =>
    if header.hash = log.blockHash then
      .ok ⟨⟨log.toTransfer, header.number, header.hash⟩, range.chainId, header.timestamp⟩
    else .error (.providerHashMismatch ("eth_getLogs block " ++ toString log.blockNumber)
      providerId log.blockHash "header_quorum" header.hash)

/-- **`transfer_logs`.** -/
def transferLogs : Except RpcChainError (List TransferLog) := do
  range.validate
  let chainId := calls.logs.manager.expectedChainId
  ensure (decide (range.chainId = chainId)) (.chainIdMismatch range.chainId chainId)
  let (providerId, value) ← (calls.logs.manager.requestFirstSuccess calls.logs.answers
    calls.logs.now "eth_getLogs").1
  let rawLogs ← orError value.asArray (.malformedRpcResponse "eth_getLogs result must be an array")
  let parsed ← parsedLogs libs range rawLogs
  let headers ← collectOk (fetchHeader libs calls)
    (sortedSet (parsed.map ParsedTransferLog.blockNumber))
  let logs ← collectOk (attachHeader range providerId headers) parsed
  pure (logs.insertionSort (fun a b => a.blockNumber < b.blockNumber ∨
    (a.blockNumber = b.blockNumber ∧ a.logIndex ≤ b.logIndex)))

/-- `latest_head`. -/
def latestHead : Except RpcChainError ChainBlockRef :=
  (calls.head.manager.headByTag libs calls.head.answers calls.head.now "latest").1

end Source

/-- The errors of `match_range` over a pool. -/
inductive RpcMatchingError
  | chain (error : RpcChainError)
  | matching (error : PaymentMatchingError)
  deriving DecidableEq

/-- The range `match_range` asks for. -/
def scanRange (stream : StreamId) (fromBlock toBlock : ℕ) : TransferLogRange :=
  ⟨stream.chainId, stream.tokenAddress, fromBlock, toBlock, none⟩

/-- **`match_range`**, with the windows looked up in the database. -/
def matchRange (libs : RpcLibraries) (calls : RangeCalls) (cfg : PaymentScannerConfig)
    (db : PaymentDb) (newId : ℕ → Uuid) (fromBlock toBlock : ℕ) :
    Except RpcMatchingError (List MatchedPaymentInput) := do
  ensure (decide (cfg.maxUniqueToAddressesPerBatch ≠ 0))
    (.matching (.invalidConfig "max_unique_to_addresses_per_batch"))
  let logs ← (transferLogs libs calls (scanRange cfg.stream fromBlock toBlock)).mapError .chain
  let head ← (latestHead libs calls).mapError .chain
  let addresses := sortedSet (logs.map (fun log => log.toAddress))
  ensure (decide (addresses.length ≤ cfg.maxUniqueToAddressesPerBatch))
    (.matching (.uniqueAddressLimitExceeded addresses.length cfg.maxUniqueToAddressesPerBatch))
  let candidates ← if addresses.isEmpty then pure []
    else (lookupBatch cfg db addresses).mapError .matching
  pure (matchTransferLogs cfg.stream cfg.minConfirmations logs candidates head newId)

end RpcRangeSource

/-! ## The provider whose answer is taken -/

namespace PoolCall

/-- **The provider whose answer is taken**: of the candidates, in the order they
are asked, the first that answers at all. -/
def firstAnswering (call : PoolCall) : Option ℕ :=
  (call.manager.providerCandidates call.now).find?
    (fun i => (call.answers i).response.toOption.isSome)

end PoolCall

namespace RpcProviderManager

/-- The loop of `request_first_success` takes the answer of the first candidate
that has one. -/
theorem requestFirstSuccessFrom_eq_ok {answers : ℕ → Answer} {method : String}
    {candidates : List ℕ} {m : RpcProviderManager} {errors : List String} {providerId : String}
    {value : JsonValue}
    (h : (requestFirstSuccessFrom answers method m errors candidates).1 = .ok (providerId, value)) :
    ∃ i, candidates.find? (fun i => (answers i).response.toOption.isSome) = some i
      ∧ (answers i).response = .ok value := by
  induction candidates generalizing m errors with
  | nil => cases h
  | cons i rest ih =>
    unfold requestFirstSuccessFrom at h
    split at h
    · rename_i value' hresp
      obtain ⟨-, rfl⟩ := Prod.mk.inj (Except.ok.inj h)
      refine ⟨i, List.find?_cons_of_pos ?_, hresp⟩
      rw [hresp]
      rfl
    · rename_i error hresp
      obtain ⟨j, hj, hvalue⟩ := ih h
      refine ⟨j, ?_, hvalue⟩
      rw [List.find?_cons_of_neg (by rw [hresp]; exact Bool.false_ne_true)]
      exact hj

theorem requestFirstSuccess_eq_ok {call : PoolCall} {method providerId : String}
    {value : JsonValue}
    (h : (requestFirstSuccess call.answers call.manager call.now method).1
      = .ok (providerId, value)) :
    ∃ i, call.firstAnswering = some i ∧ (call.answers i).response = .ok value :=
  requestFirstSuccessFrom_eq_ok h

end RpcProviderManager

namespace RpcRangeSource

variable {libs : RpcLibraries} {calls : RangeCalls} {range : TransferLogRange}

/-- **What `transfer_logs` returns**: the logs in the answer of one provider, each
with the header of its block. -/
theorem transferLogs_eq_ok {logs : List TransferLog}
    (h : transferLogs libs calls range = .ok logs) :
    ∃ i rawLogs parsed headers providerId, calls.logs.firstAnswering = some i
      ∧ (calls.logs.answers i).response = .ok (.array rawLogs)
      ∧ parsedLogs libs range rawLogs = .ok parsed
      ∧ collectOk (fetchHeader libs calls)
          (sortedSet (parsed.map ParsedTransferLog.blockNumber)) = .ok headers
      ∧ (∀ l, l ∈ logs ↔ ∃ log ∈ parsed, attachHeader range providerId headers log = .ok l)
      ∧ ∀ log ∈ parsed, ∃ l ∈ logs, attachHeader range providerId headers log = .ok l := by
  unfold transferLogs at h
  obtain ⟨_, -, h⟩ := Except.bind_eq_ok.mp h
  obtain ⟨-, h⟩ := ensure_bind_eq_ok.mp h
  obtain ⟨⟨providerId, value⟩, hvalue, h⟩ := Except.bind_eq_ok.mp h
  obtain ⟨rawLogs, hraw, h⟩ := Except.bind_eq_ok.mp h
  obtain ⟨parsed, hparsed, h⟩ := Except.bind_eq_ok.mp h
  obtain ⟨headers, hheaders, h⟩ := Except.bind_eq_ok.mp h
  obtain ⟨completed, hcompleted, h⟩ := Except.bind_eq_ok.mp h
  obtain rfl := Except.pure_eq_ok.mp h
  obtain ⟨i, hi, hresp⟩ := RpcProviderManager.requestFirstSuccess_eq_ok hvalue
  have harray : value = .array rawLogs := JsonValue.asArray_eq_some.mp (orError_eq_ok.mp hraw)
  rw [harray] at hresp
  refine ⟨i, rawLogs, parsed, headers, providerId, hi, hresp, hparsed, hheaders, fun l => ?_,
    fun log hlog => ?_⟩
  · rw [List.mem_insertionSort]
    exact mem_collectOk hcompleted
  · obtain ⟨l, hl, hattach⟩ := exists_of_collectOk hcompleted hlog
    exact ⟨l, (List.mem_insertionSort _).mpr hl, hattach⟩

/-- A log with its header has the transfer it had, in the block of a header that
was fetched for its number. -/
theorem attachHeader_eq_ok {providerId : String} {headers : List (ℕ × BlockHeader)}
    {log : ParsedTransferLog} {l : TransferLog}
    (h : attachHeader range providerId headers log = .ok l) :
    ∃ header, (log.blockNumber, header) ∈ headers ∧ header.hash = log.blockHash
      ∧ l.toParsedTransferLog = ⟨log.toTransfer, header.number, header.hash⟩ := by
  unfold attachHeader at h
  split at h
  · cases h
  · rename_i number header hfind
    split at h
    · rename_i hhash
      have hnumber : number = log.blockNumber := by simpa using List.find?_some hfind
      rw [← Except.ok.inj h]
      exact ⟨header, hnumber ▸ List.mem_of_find?_eq_some hfind, hhash, rfl⟩
    · cases h

/-- `match_range` succeeds on logs that were read. -/
theorem matchRange_eq_ok {cfg : PaymentScannerConfig} {db : PaymentDb} {newId : ℕ → Uuid}
    {fromBlock toBlock : ℕ} {matched : List MatchedPaymentInput}
    (h : matchRange libs calls cfg db newId fromBlock toBlock = .ok matched) :
    ∃ logs, transferLogs libs calls (scanRange cfg.stream fromBlock toBlock) = .ok logs := by
  unfold matchRange at h
  obtain ⟨-, h⟩ := ensure_bind_eq_ok.mp h
  obtain ⟨logs, hlogs, -⟩ := Except.bind_eq_ok.mp h
  exact ⟨logs, Except.mapError_eq_ok.mp hlogs⟩

end RpcRangeSource
