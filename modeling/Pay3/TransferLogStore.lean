import Pay3.RpcProviders
import Pay3.VerifyFindsScanned

/-!
# The transfer-log store

The store keeps, for each stream, the transfers of the blocks below a cursor,
the headers of these blocks, and the hash of the last block it completed. A poll
reads the cursor and asks the chain whether that hash is still canonical. If it
is, the poll reads the blocks up to the target and writes them; if not, it walks
up from a bounded number of blocks below, and rewinds to the first block whose
header is not the one it has. A rewind forgets the hash.

The lock is held for the reads and the writes and not for the calls in between,
so many polls may be under way on one stream. This module has a poll as the
steps it takes between two such points, over any source of headers and logs; the
maps of the store are lists without repeated keys. The configuration is the one
`ensure_stream` stored. The times a record carries are those of the clock
at the write.
-/

/-! ## Streams -/

/-- `ScanTargetMode`. -/
inductive ScanTargetMode
  | safeTag
  | finalizedTag
  | latestMinusConfirmations (confirmations : ℕ)
  deriving DecidableEq

/-- `TransferLogStreamConfig`, the part a poll reads. -/
structure TransferLogStreamConfig where
  chainId : ℕ
  tokenAddress : EvmAddress
  startBlock : ℕ
  batchSizeBlocks : ℕ
  maxBatchSizeBlocks : ℕ
  maxLogsPerPage : ℕ
  reorgLookbackBlocks : ℕ
  targetMode : ScanTargetMode
  sparseHeaders : Bool
  deriving DecidableEq

/-- `stream_id`. -/
def TransferLogStreamConfig.streamId (cfg : TransferLogStreamConfig) : StreamId :=
  ⟨cfg.chainId, cfg.tokenAddress⟩

/-- `TransferLogCursor`. -/
structure TransferLogCursor where
  stream : StreamId
  startBlock : ℕ
  nextBlock : ℕ
  lastCompletedBlock : Option ℕ
  lastCompletedHash : Option BlockHash
  targetMode : ScanTargetMode
  reorgEpoch : ℕ
  lastReorgFrom : Option ℕ
  lastReorgAt : Option Timestamp
  writerEpoch : ℕ
  updatedAt : Timestamp
  deriving DecidableEq

namespace TransferLogCursor

/-- `initial`. -/
def initial (cfg : TransferLogStreamConfig) (writerEpoch : ℕ) (now : Timestamp) :
    TransferLogCursor where
  stream := cfg.streamId
  startBlock := cfg.startBlock
  nextBlock := cfg.startBlock
  lastCompletedBlock := none
  lastCompletedHash := none
  targetMode := cfg.targetMode
  reorgEpoch := 0
  lastReorgFrom := none
  lastReorgAt := none
  writerEpoch := writerEpoch
  updatedAt := now

/-- **`record_rewind`.** -/
def recordRewind (cursor : TransferLogCursor) (rewindToBlock writerEpoch : ℕ) (now : Timestamp) :
    TransferLogCursor :=
  { cursor with
    reorgEpoch := min (cursor.reorgEpoch + 1) u64Max
    lastReorgFrom := some rewindToBlock
    lastReorgAt := some now
    nextBlock := rewindToBlock
    lastCompletedBlock := if rewindToBlock = 0 then none else some (rewindToBlock - 1)
    lastCompletedHash := none
    writerEpoch := writerEpoch
    updatedAt := now }

end TransferLogCursor

/-- A `ChainBlock` as the source answers it, less the hash of its parent. -/
structure ScannedHeader where
  number : ℕ
  hash : BlockHash
  timestamp : Timestamp
  deriving DecidableEq

/-- The header of a block. -/
def ChainBlock.header (b : ChainBlock) : ScannedHeader := ⟨b.number, b.hash, b.timestamp⟩

/-- The header a log comes with. -/
def TransferLog.header (log : TransferLog) : ScannedHeader :=
  ⟨log.blockNumber, log.blockHash, log.blockTimestamp⟩

/-- `StoredBlockHeader`. -/
structure StoredBlockHeader where
  chainId : ℕ
  tokenAddress : EvmAddress
  blockNumber : ℕ
  blockHash : BlockHash
  timestamp : Timestamp
  scannedAt : Timestamp
  deriving DecidableEq

/-- `stored_header`. -/
def storedHeader (cfg : TransferLogStreamConfig) (block : ScannedHeader) (scannedAt : Timestamp) :
    StoredBlockHeader :=
  ⟨cfg.chainId, cfg.tokenAddress, block.number, block.hash, block.timestamp, scannedAt⟩

/-- `page_token`. -/
def StoredTransferLog.pageToken (log : StoredTransferLog) : LogPageToken :=
  ⟨log.blockNumber, log.logIndex⟩

/-- `RangeManifest`. -/
structure RangeManifest where
  fromBlock : ℕ
  toBlock : ℕ
  logCount : ℕ
  writerEpoch : ℕ
  completedAt : Timestamp
  deriving DecidableEq

/-- **`StreamData`**: what the store has of one stream. -/
structure StreamData where
  cursor : TransferLogCursor
  headers : List StoredBlockHeader
  logs : List StoredTransferLog
  rangeManifests : List RangeManifest
  deriving DecidableEq

namespace StreamData

/-- A new stream of `ensure_stream`. -/
def initial (cfg : TransferLogStreamConfig) (now : Timestamp) : StreamData :=
  ⟨.initial cfg 1 now, [], [], []⟩

/-- The hash of the header stored under a number. -/
def headerHash (data : StreamData) (number : ℕ) : Option BlockHash :=
  (data.headers.find? (fun header => decide (header.blockNumber = number))).map
    StoredBlockHeader.blockHash

/-- **`apply_rewind`.** -/
def applyRewind (data : StreamData) (fromBlock : ℕ) (now : Timestamp) : StreamData where
  headers := data.headers.filter (fun header => decide (header.blockNumber < fromBlock))
  logs := data.logs.filter (fun log => decide (log.blockNumber < fromBlock))
  rangeManifests := data.rangeManifests.filter (fun range => decide (range.toBlock < fromBlock))
  cursor := data.cursor.recordRewind fromBlock data.cursor.writerEpoch now

/-- **`rewind_to`.** -/
def rewindTo (cfg : TransferLogStreamConfig) (data : StreamData) (block : ℕ) (now : Timestamp) :
    StreamData :=
  data.applyRewind (max block cfg.startBlock) now

/-- The stored form of a log, if its header is among those read and has the hash
of the log. -/
def keptLog (headersByNumber : List ScannedHeader) (now : Timestamp) (log : TransferLog) :
    Option StoredTransferLog :=
  match headersByNumber.find? (fun header => decide (header.number = log.blockNumber)) with
  | none => none
  | some header =>
    if header.hash ≠ log.blockHash then none else some (storedLog log header.timestamp now)

/-- **The write at the end of a poll**, and the number of logs it stored. -/
def write (cfg : TransferLogStreamConfig) (data : StreamData) (fromBlock toBlock : ℕ)
    (logs : List TransferLog) (headers : List ScannedHeader) (now : Timestamp) : StreamData × ℕ :=
  let headersByNumber := insertAll ScannedHeader.number headers []
  let stored := logs.filterMap (keptLog headersByNumber now)
  let completedHash :=
    ((headersByNumber.find? (fun header => decide (header.number = toBlock))).map
      ScannedHeader.hash).getD 0
  ({ headers := insertAll StoredBlockHeader.blockNumber
        (headers.map (fun header => storedHeader cfg header now)) data.headers
     logs := insertAll StoredTransferLog.pageToken stored data.logs
     cursor := { data.cursor with
       nextBlock := min (toBlock + 1) u64Max
       lastCompletedBlock := some toBlock
       lastCompletedHash := some completedHash
       updatedAt := now }
     rangeManifests := data.rangeManifests
        ++ [⟨fromBlock, toBlock, stored.length, data.cursor.writerEpoch, now⟩] },
    stored.length)

end StreamData

/-! ## A poll -/

/-- The errors a poll ends with, once its stream is there. -/
inductive TransferLogStoreError
  | notReady (reason : String)
  | chain (error : RpcChainError)
  deriving DecidableEq

/-- `PollOutcome`. -/
inductive PollOutcome
  | idle (cursor : TransferLogCursor)
  | advanced (stream : StreamId) (fromBlock toBlock logCount : ℕ) (cursor : TransferLogCursor)
  | rewound (stream : StreamId) (fromBlock : ℕ) (cursor : TransferLogCursor)
  deriving DecidableEq

/-- The header reader and the log source of a store, by what they answer. -/
structure LogStoreSource where
  latestHead : Except RpcChainError ChainBlockRef
  safeHead : Except RpcChainError ChainBlockRef
  finalizedHead : Except RpcChainError ChainBlockRef
  blockByNumber : ℕ → Except RpcChainError ChainBlock
  transferLogs : TransferLogRange → Except RpcChainError (List TransferLog)

/-- **Where a poll is**, between two of its calls. -/
inductive PollPc
  /-- The cursor is read. -/
  | started
  /-- The hash of the last completed block has changed; the next header to ask
  for. -/
  | walking (last number : ℕ)
  /-- The chain has answered with a hash, to be compared with the stored one. -/
  | comparing (last number : ℕ) (current : BlockHash)
  | rewinding (firstDiverged : ℕ)
  /-- No reorganisation was detected. -/
  | checked
  | fetching (toBlock : ℕ)
  /-- The logs are read, and the headers of some blocks are still missing. -/
  | gathering (toBlock : ℕ) (logs : List TransferLog) (headersByNumber : List (ℕ × ScannedHeader))
      (missing : List ℕ)
  | returned (result : Except TransferLogStoreError PollOutcome)
  deriving DecidableEq

/-- A call that failed ends the poll. -/
def PollPc.failed (error : RpcChainError) : PollPc := .returned (.error (.chain error))

section Limits

/-- `effective_batch_size`. -/
def effectiveBatchSize (cfg : TransferLogStreamConfig) : ℕ :=
  let requested := max cfg.batchSizeBlocks 1
  if cfg.maxBatchSizeBlocks = 0 then requested else min requested cfg.maxBatchSizeBlocks

/-- The first range asked for ends here. -/
def firstToBlock (cfg : TransferLogStreamConfig) (fromBlock target : ℕ) : ℕ :=
  min (min (fromBlock + (effectiveBatchSize cfg - 1)) u64Max) target

/-- The blocks of a range. -/
def blockCount (fromBlock toBlock : ℕ) : ℕ := min (toBlock - fromBlock + 1) u64Max

/-- The range with half the blocks ends here. -/
def halvedToBlock (fromBlock toBlock : ℕ) : ℕ :=
  min (fromBlock + (max (blockCount fromBlock toBlock / 2) 1 - 1)) u64Max

/-- The logs of the fullest block: `max_logs_in_single_block`. -/
def maxLogsInSingleBlock (logs : List TransferLog) : ℕ :=
  ((logs.map (fun log => log.blockNumber)).dedup.map
    (fun number => logs.countP (fun log => decide (log.blockNumber = number)))).foldl max 0

/-- `transfer_log_capacity_report` and `is_within_limits`. -/
def isWithinLimits (cfg : TransferLogStreamConfig) (logs : List TransferLog) : Bool :=
  decide (logs.length ≤ cfg.maxLogsPerPage) && decide (maxLogsInSingleBlock logs ≤ cfg.maxLogsPerPage)

/-- `message_indicates_range_or_result_limit`. -/
def messageIndicatesRangeOrResultLimit (message : String) : Bool :=
  ["block range", "range exceeds", "range too large", "too many results",
    "query returned more than", "response size", "payload too large", "result limit",
    "limit exceeded", "exceeds fake limit"].any
      (fun needle => occursIn (utf8 needle) ((utf8 message).map asciiLowercase))

/-- `should_reduce_batch_on_error`. -/
def shouldReduceBatchOnError : RpcChainError → Bool
  | .capacityExceeded _ _ => true
  | .rpcUnavailable message => messageIndicatesRangeOrResultLimit message
  | .malformedRpcResponse message => messageIndicatesRangeOrResultLimit message
  | _ => false

/-- The error of a block that is too full. -/
def capacityReason (cfg : TransferLogStreamConfig) (fromBlock logCount : ℕ) : String :=
  "transfer log capacity exceeded for block " ++ toString fromBlock ++ ": " ++ toString logCount
    ++ " logs, max " ++ toString cfg.maxLogsPerPage

end Limits

section Poll

variable (cfg : TransferLogStreamConfig) (source : LogStoreSource)

/-- `resolve_target`. -/
def resolveTarget : Except RpcChainError ℕ :=
  match cfg.targetMode with
  | .safeTag => source.safeHead.map ChainBlockRef.number
  | .finalizedTag => source.finalizedHead.map ChainBlockRef.number
  | .latestMinusConfirmations confirmations =>
    source.latestHead.map (fun latest =>
      if latest.number < confirmations then 0 else latest.number - confirmations)

/-- `reorg_floor`: the first block whose header is compared. -/
def reorgFloor (lastCompletedBlock : ℕ) : ℕ :=
  max (lastCompletedBlock - (cfg.reorgLookbackBlocks - 1)) cfg.startBlock

/-- **`detect_reorg`**, up to its loop. -/
def detectReorg (cursor : TransferLogCursor) : PollPc :=
  match cursor.lastCompletedBlock, cursor.lastCompletedHash with
  | some last, some hash =>
    match source.blockByNumber last with
    | .error error => .failed error
    | .ok current =>
      if current.hash = hash then .checked
      else if reorgFloor cfg last ≤ last then .walking last (reorgFloor cfg last)
      else .rewinding last
  | _, _ => .checked

/-- The loop asks for a header. -/
def askHeader (last number : ℕ) : PollPc :=
  match source.blockByNumber number with
  | .error error => .failed error
  | .ok current => .comparing last number current.hash

/-- The loop compares it: with no header stored the block counts as diverged, and
if none has diverged the last one is taken. -/
def compareHeader (data : StreamData) (last number : ℕ) (current : BlockHash) : PollPc :=
  if data.headerHash number ≠ some current then .rewinding number
  else if number < last then .walking last (number + 1)
  else .rewinding last

/-- The target is compared with the cursor that was read. -/
def checkTarget (cursor : TransferLogCursor) : PollPc :=
  match resolveTarget cfg source with
  | .error error => .failed error
  | .ok target =>
    if target < cursor.nextBlock then .returned (.ok (.idle cursor))
    else .fetching (firstToBlock cfg cursor.nextBlock target)

/-- The blocks whose headers a batch needs: all of them, or those with logs and
the last one. -/
def headerBlocks (logs : List TransferLog) (fromBlock toBlock : ℕ) : List ℕ :=
  if cfg.sparseHeaders then sortedSet (logs.map (fun log => log.blockNumber) ++ [toBlock])
  else List.range' fromBlock (toBlock + 1 - fromBlock)

/-- **`headers_for_batch`**, up to its loop: the headers that came with the logs, and
the blocks it asks for. -/
def gatherHeaders (logs : List TransferLog) (fromBlock toBlock : ℕ) : PollPc :=
  let headersByNumber := insertAll Prod.fst (logs.map (fun log => (log.blockNumber, log.header))) []
  .gathering toBlock logs headersByNumber
    ((headerBlocks cfg logs fromBlock toBlock).filter
      (fun number => !(headersByNumber.map Prod.fst).contains number))

/-- **`fetch_logs_with_adaptive_range`**, one turn of its loop. -/
def fetchLogs (cursor : TransferLogCursor) (toBlock : ℕ) : PollPc :=
  let fromBlock := cursor.nextBlock
  match source.transferLogs ⟨cfg.chainId, cfg.tokenAddress, fromBlock, toBlock, none⟩ with
  | .error error =>
    if shouldReduceBatchOnError error ∧ 1 < blockCount fromBlock toBlock then
      .fetching (halvedToBlock fromBlock toBlock)
    else .failed error
  | .ok logs =>
    if isWithinLimits cfg logs then gatherHeaders cfg logs fromBlock toBlock
    else if blockCount fromBlock toBlock ≤ 1 then
      .returned (.error (.notReady (capacityReason cfg fromBlock logs.length)))
    else .fetching (halvedToBlock fromBlock toBlock)

/-- The loop of `headers_for_batch` asks for a header. -/
def gatherHeader (toBlock : ℕ) (logs : List TransferLog) (headersByNumber : List (ℕ × ScannedHeader))
    (number : ℕ) (missing : List ℕ) : PollPc :=
  match source.blockByNumber number with
  | .error error => .failed error
  | .ok block =>
    .gathering toBlock logs (upsertBy Prod.fst (number, block.header) headersByNumber) missing

/-- **One step of `poll_once`**: what it does to the stream, and where it goes. -/
def pollStep (now : Timestamp) (cursor : TransferLogCursor) (data : StreamData) :
    PollPc → StreamData × PollPc
  | .started => (data, detectReorg cfg source cursor)
  | .walking last number => (data, askHeader source last number)
  | .comparing last number current => (data, compareHeader data last number current)
  | .rewinding firstDiverged =>
    let data' := data.applyRewind firstDiverged now
    (data', .returned (.ok (.rewound cfg.streamId firstDiverged data'.cursor)))
  | .checked => (data, checkTarget cfg source cursor)
  | .fetching toBlock => (data, fetchLogs cfg source cursor toBlock)
  | .gathering toBlock logs headersByNumber (number :: missing) =>
    (data, gatherHeader source toBlock logs headersByNumber number missing)
  | .gathering toBlock logs headersByNumber [] =>
    let (data', logCount) :=
      data.write cfg cursor.nextBlock toBlock logs (headersByNumber.map Prod.snd) now
    (data', .returned
      (.ok (.advanced cfg.streamId cursor.nextBlock toBlock logCount data'.cursor)))
  | .returned result => (data, .returned result)

end Poll
