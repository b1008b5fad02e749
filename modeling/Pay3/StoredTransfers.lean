import Pay3.LogStoreSystem

/-!
# What the store has of the chain

The transfers stored for a block are exact when they are those of the canonical
block. A poll reads a batch in several calls, so the logs and the headers of one
batch may come from different chains; what it writes is exact if none of them
changed a transfer of the batch.

The stream is coherent when a stored header goes with the logs of its block, the
hash of the last completed block commits to everything stored, and what lies below
the floor of the next comparison is canonical. Rewinds and writes keep this under
the conditions named here.
-/

/-! ## What is stored -/

/-- The log that was stored. -/
def StoredTransferLog.transferLog (log : StoredTransferLog) : TransferLog where
  tokenAddress := log.tokenAddress
  txHash := log.txHash
  logIndex := log.logIndex
  fromAddress := log.fromAddress
  toAddress := log.toAddress
  amountRaw := log.amountRaw
  blockNumber := log.blockNumber
  blockHash := log.blockHash
  chainId := log.chainId
  blockTimestamp := log.blockTimestamp

/-- The transfers stored for a block. -/
def StreamData.transfersAt (data : StreamData) (number : ℕ) : List TransferLog :=
  (data.logs.filter (fun log => decide (log.blockNumber = number))).map
    StoredTransferLog.transferLog

/-- **The transfers stored for the block are exactly those of the blocks given.** -/
def ExactAt (cfg : TransferLogStreamConfig) (data : StreamData) (blocks : List ChainBlock)
    (number : ℕ) : Prop :=
  ∀ log, log ∈ data.transfersAt number ↔ log ∈ transfersAt cfg blocks number

/-- **What is stored below a block is exactly what the chain has there**, from the first
block of the stream on. -/
def ExactBelow (cfg : TransferLogStreamConfig) (data : StreamData) (chain : CanonicalChain)
    (height : ℕ) : Prop :=
  ∀ number, cfg.startBlock ≤ number → number < height → ExactAt cfg data chain.blocks number

theorem StreamData.mem_transfersAt {data : StreamData} {number : ℕ} {log : TransferLog} :
    log ∈ data.transfersAt number
      ↔ ∃ stored ∈ data.logs, stored.blockNumber = number ∧ stored.transferLog = log := by
  unfold StreamData.transfersAt
  rw [List.mem_map]
  constructor
  · rintro ⟨stored, hstored, rfl⟩
    obtain ⟨hmem, hnumber⟩ := List.mem_filter.mp hstored
    exact ⟨stored, hmem, of_decide_eq_true hnumber, rfl⟩
  · rintro ⟨stored, hmem, hnumber, rfl⟩
    exact ⟨stored, List.mem_filter.mpr ⟨hmem, decide_eq_true hnumber⟩, rfl⟩

/-! ## What the chain answers -/

section Answers

variable {cfg : TransferLogStreamConfig} {ledger : HashLedger} {chain : CanonicalChain}

/-- A block the chain has is below its height. -/
theorem CanonicalChain.lt_length_of_blockByNumber {n : ℕ} {b : ChainBlock}
    (h : chain.blockByNumber n = some b) : n < chain.blocks.length :=
  (List.getElem?_eq_some_iff.mp h).1

/-- **The hash of a canonical block commits to the transfers of the blocks up to it.** -/
theorem HashLedger.Knows.transfersAt_history (hk : ledger.Knows chain) {n m : ℕ} {b : ChainBlock}
    (hb : chain.blockByNumber n = some b) (hm : m ≤ n) :
    transfersAt cfg (ledger.history b.hash) m = transfersAt cfg chain.blocks m := by
  have hmem : (b, n) ∈ chain.blocks.zipIdx := by
    rw [List.mem_iff_getElem?]
    refine ⟨n, ?_⟩
    rw [List.getElem?_zipIdx, show chain.blocks[n]? = some b from hb]
    simp
  have hhistory : ledger.history b.hash = chain.blocks.take (n + 1) := hk.history _ hmem
  unfold transfersAt
  rw [hhistory, List.getElem?_take_of_lt (by omega)]

/-- The header asked for is the header of the canonical block. -/
theorem LogStoreState.blockByNumber_of_source {s : LogStoreState}
    {tags : Except RpcChainError (ℕ × ℕ)} {n : ℕ} {b : ChainBlock}
    (h : (s.source tags).blockByNumber n = .ok b) : s.chain.blockByNumber n = some b := by
  cases tags with
  | error e => cases h
  | ok tags => exact orError_eq_ok.mp h

/-- The logs asked for are those of the canonical blocks of the range. -/
theorem LogStoreState.transferLogs_of_source {s : LogStoreState}
    {tags : Except RpcChainError (ℕ × ℕ)} {range : TransferLogRange} {logs : List TransferLog}
    (h : (s.source tags).transferLogs range = .ok logs) :
    range.fromBlock ≤ range.toBlock ∧ logs = s.chain.transfersIn range := by
  cases tags with
  | error e => cases h
  | ok tags =>
    replace h : (if range.fromBlock ≤ range.toBlock then Except.ok (s.chain.transfersIn range)
      else .error (RpcChainError.invalidBlockRange range.fromBlock range.toBlock)) = Except.ok logs := h
    by_cases hle : range.fromBlock ≤ range.toBlock
    · rw [if_pos hle] at h
      exact ⟨hle, (Except.ok.inj h).symm⟩
    · rw [if_neg hle] at h
      cases h

/-- The range of a batch. -/
def batchRange (cfg : TransferLogStreamConfig) (fromBlock toBlock : ℕ) : TransferLogRange :=
  ⟨cfg.chainId, cfg.tokenAddress, fromBlock, toBlock, none⟩

/-- A log of an answer stands in a block of the chain in the range. -/
theorem CanonicalChain.block_of_mem_transfersIn {range : TransferLogRange} {log : TransferLog}
    (h : log ∈ chain.transfersIn range) :
    ∃ b, chain.blockByNumber log.blockNumber = some b ∧ range.fromBlock ≤ log.blockNumber
      ∧ log.blockNumber ≤ range.toBlock ∧ log.header = b.header
      ∧ log ∈ blockTransfers range b := by
  obtain ⟨b, hb, hlog⟩ := List.mem_flatMap.mp h
  obtain ⟨hmem, hrange⟩ := List.mem_filter.mp hb
  simp only [Bool.and_eq_true, decide_eq_true_eq] at hrange
  have hlog' := hlog
  obtain ⟨t, -, rfl⟩ := List.mem_map.mp hlog
  exact ⟨b, blockByNumber_of_mem hmem, hrange.1, hrange.2, rfl, hlog'⟩

/-- **The logs answered for a block are the transfers of the block.** -/
theorem CanonicalChain.mem_transfersIn_at {fromBlock toBlock n : ℕ} (hfrom : fromBlock ≤ n)
    (hto : n ≤ toBlock) (log : TransferLog) :
    (log ∈ chain.transfersIn (batchRange cfg fromBlock toBlock) ∧ log.blockNumber = n)
      ↔ log ∈ transfersAt cfg chain.blocks n := by
  constructor
  · rintro ⟨hlog, rfl⟩
    obtain ⟨b, hb, -, -, -, hmem⟩ := block_of_mem_transfersIn hlog
    unfold transfersAt
    rw [show chain.blocks[log.blockNumber]? = some b from hb]
    exact hmem
  · intro hlog
    unfold transfersAt at hlog
    cases hb : chain.blocks[n]? with
    | none =>
      rw [hb] at hlog
      cases hlog
    | some b =>
      rw [hb] at hlog
      have hnumber : b.number = n := number_of_blockByNumber hb
      have hin : b ∈ chain.blocks := List.mem_of_getElem? hb
      refine ⟨List.mem_flatMap.mpr ⟨b, List.mem_filter.mpr ⟨hin, ?_⟩, hlog⟩, ?_⟩
      · show (decide (fromBlock ≤ b.number) && decide (b.number ≤ toBlock)) = true
        rw [hnumber, decide_eq_true hfrom, decide_eq_true hto]
        rfl
      · obtain ⟨t, -, rfl⟩ := List.mem_map.mp hlog
        exact hnumber

/-- The blocks of a chain have different numbers. -/
theorem CanonicalChain.nodup_numbers (chain : CanonicalChain) :
    chain.blocks.Pairwise (fun b b' => b.number ≠ b'.number) := by
  rw [List.pairwise_iff_getElem]
  intro i j hi hj hij heq
  have hni := number_of_blockByNumber (List.getElem?_eq_getElem hi : chain.blockByNumber i = _)
  have hnj := number_of_blockByNumber (List.getElem?_eq_getElem hj : chain.blockByNumber j = _)
  omega

/-- The name of a log in the store: its block and its index there. -/
def TransferLog.token (log : TransferLog) : LogPageToken := ⟨log.blockNumber, log.logIndex⟩

/-- **No two logs of an answer have the same block and index.** -/
theorem HashLedger.Knows.nodup_tokens (hk : ledger.Knows chain) (range : TransferLogRange) :
    ((chain.transfersIn range).map TransferLog.token).Nodup := by
  unfold CanonicalChain.transfersIn
  rw [List.map_flatMap, List.nodup_flatMap]
  constructor
  · intro b hb
    have hindexed := hk.indexed b (List.mem_filter.mp hb).1
    unfold CanonicalChain.blockTransfers
    rw [List.map_map]
    refine List.Nodup.map_on ?_ ((List.Nodup.of_map _ hindexed).filter _)
    intro t ht t' ht' heq
    exact List.inj_on_of_nodup_map hindexed (List.mem_filter.mp ht).1 (List.mem_filter.mp ht').1
      (congrArg LogPageToken.logIndex heq)
  · refine (chain.nodup_numbers.filter _).imp ?_
    intro b b' hne token htoken htoken'
    obtain ⟨log, hlog, rfl⟩ := List.mem_map.mp htoken
    obtain ⟨log', hlog', heq⟩ := List.mem_map.mp htoken'
    obtain ⟨t, -, rfl⟩ := List.mem_map.mp hlog
    obtain ⟨t', -, rfl⟩ := List.mem_map.mp hlog'
    exact hne (congrArg LogPageToken.blockNumber heq).symm

end Answers

/-! ## Rewinds and writes -/

section Stream

variable {cfg : TransferLogStreamConfig} {ledger : HashLedger} {chain chain' : CanonicalChain}
  {data : StreamData}

/-- A rewind leaves the transfers below it. -/
theorem StreamData.transfersAt_applyRewind {f n : ℕ} (hn : n < f) (now : Timestamp) :
    (data.applyRewind f now).transfersAt n = data.transfersAt n := by
  unfold StreamData.transfersAt StreamData.applyRewind
  dsimp only
  rw [List.filter_filter]
  refine congrArg (List.map StoredTransferLog.transferLog) (List.filter_congr (fun log _ => ?_))
  by_cases h : log.blockNumber = n
  · simp [h, hn]
  · simp [h]

/-- **What a poll has read of its batch.** -/
structure BatchRead (fromBlock toBlock : ℕ) (logs : List TransferLog)
    (headers : List (ℕ × ScannedHeader)) (missing : List ℕ) : Prop where
  order : fromBlock ≤ toBlock
  tokens : (logs.map TransferLog.token).Nodup
  logRange : ∀ log ∈ logs, fromBlock ≤ log.blockNumber ∧ log.blockNumber ≤ toBlock
  numbers : (headers.map Prod.fst).Nodup
  headerRange : ∀ e ∈ headers,
    e.2.number = e.1 ∧ fromBlock ≤ e.1 ∧ e.1 ≤ toBlock ∧ e.1 < u64Max
  logHeader : ∀ log ∈ logs, (log.blockNumber, log.header) ∈ headers
  missingOnce : missing.Nodup
  missingRange : ∀ n ∈ missing, fromBlock ≤ n ∧ n ≤ toBlock ∧ n ∉ headers.map Prod.fst
  last : toBlock ∈ headers.map Prod.fst ∨ toBlock ∈ missing

namespace BatchRead

variable {fromBlock toBlock : ℕ} {logs : List TransferLog} {headers : List (ℕ × ScannedHeader)}
  {missing : List ℕ}

/-- The headers of the batch are under the numbers they name. -/
theorem map_number (h : BatchRead fromBlock toBlock logs headers missing) :
    (headers.map Prod.snd).map ScannedHeader.number = headers.map Prod.fst := by
  rw [List.map_map]
  exact List.map_congr_left (fun e he => (h.headerRange e he).1)

/-- A header of the batch is found under its number. -/
theorem find?_header (h : BatchRead fromBlock toBlock logs headers missing)
    {e : ℕ × ScannedHeader} (he : e ∈ headers) :
    (insertAll ScannedHeader.number (headers.map Prod.snd) []).find?
      (fun header => decide (header.number = e.1)) = some e.2 := by
  have hnd : ((headers.map Prod.snd).map ScannedHeader.number).Nodup := h.map_number ▸ h.numbers
  have hmem : e.2 ∈ insertAll ScannedHeader.number (headers.map Prod.snd) [] :=
    (mem_insertAll hnd (by simp)).mpr (Or.inl (List.mem_map_of_mem he))
  rw [← (h.headerRange e he).1]
  exact find?_eq_some_of_mem (nodup_map_insertAll (by simp)) hmem

/-- Every log of the batch is stored. -/
theorem filterMap_keptLog (h : BatchRead fromBlock toBlock logs headers missing) (now : Timestamp) :
    logs.filterMap (StreamData.keptLog
        (insertAll ScannedHeader.number (headers.map Prod.snd) []) now)
      = logs.map (fun log => storedLog log log.blockTimestamp now) := by
  have hmap : logs.map (fun log => storedLog log log.blockTimestamp now)
      = logs.filterMap (fun log => some (storedLog log log.blockTimestamp now)) :=
    (congrFun List.filterMap_eq_map logs).symm
  rw [hmap]
  refine List.filterMap_congr (fun log hlog => ?_)
  unfold StreamData.keptLog
  rw [h.find?_header (h.logHeader log hlog)]
  exact if_neg (fun hne => hne rfl)

/-- **The stream after the write of a complete batch.** -/
theorem write_eq (h : BatchRead fromBlock toBlock logs headers [])
    (cfg : TransferLogStreamConfig) (data : StreamData) (now : Timestamp) :
    ∃ header, (toBlock, header) ∈ headers ∧
      (data.write cfg fromBlock toBlock logs (headers.map Prod.snd) now).1
        = { headers := insertAll StoredBlockHeader.blockNumber
              ((headers.map Prod.snd).map (fun header => storedHeader cfg header now)) data.headers
            logs := insertAll StoredTransferLog.pageToken
              (logs.map (fun log => storedLog log log.blockTimestamp now)) data.logs
            cursor := { data.cursor with
              nextBlock := toBlock + 1
              lastCompletedBlock := some toBlock
              lastCompletedHash := some header.hash
              updatedAt := now }
            rangeManifests := data.rangeManifests
              ++ [⟨fromBlock, toBlock, logs.length, data.cursor.writerEpoch, now⟩] } := by
  have hlast : toBlock ∈ headers.map Prod.fst := h.last.resolve_right List.not_mem_nil
  obtain ⟨⟨n, header⟩, he, rfl⟩ := List.mem_map.mp hlast
  refine ⟨header, he, ?_⟩
  have hnext : min (n + 1) u64Max = n + 1 := by
    have hlt := (h.headerRange _ he).2.2.2
    dsimp only at hlt
    omega
  unfold StreamData.write
  dsimp only
  rw [h.filterMap_keptLog now, h.find?_header he, hnext, List.length_map]
  rfl

end BatchRead

/-- **The transfers after a write**: those that were there below the batch, and those of
the batch. -/
theorem BatchRead.mem_transfersAt_write {fromBlock toBlock : ℕ} {logs : List TransferLog}
    {headers : List (ℕ × ScannedHeader)} (h : BatchRead fromBlock toBlock logs headers [])
    (cfg : TransferLogStreamConfig)
    (hkeys : (data.logs.map StoredTransferLog.pageToken).Nodup)
    (hlt : ∀ stored ∈ data.logs, stored.blockNumber < fromBlock) (now : Timestamp) (n : ℕ)
    (log : TransferLog) :
    log ∈ (data.write cfg fromBlock toBlock logs (headers.map Prod.snd) now).1.transfersAt n
      ↔ log ∈ data.transfersAt n ∨ (log ∈ logs ∧ log.blockNumber = n) := by
  obtain ⟨header, -, heq⟩ := h.write_eq cfg data now
  have hnew : ((logs.map (fun log => storedLog log log.blockTimestamp now)).map
      StoredTransferLog.pageToken).Nodup := by
    rw [List.map_map]
    exact h.tokens
  rw [StreamData.mem_transfersAt, StreamData.mem_transfersAt, heq]
  constructor
  · rintro ⟨stored, hstored, hn, rfl⟩
    rcases (mem_insertAll hnew hkeys).mp hstored with hstored | ⟨hstored, -⟩
    · obtain ⟨log, hlog, rfl⟩ := List.mem_map.mp hstored
      exact Or.inr ⟨hlog, hn⟩
    · exact Or.inl ⟨stored, hstored, hn, rfl⟩
  · rintro (⟨stored, hstored, hn, rfl⟩ | ⟨hlog, hn⟩)
    · refine ⟨stored, (mem_insertAll hnew hkeys).mpr (Or.inr ⟨hstored, fun hin => ?_⟩), hn, rfl⟩
      -- the batch is of later blocks
      obtain ⟨row, hrow, htoken⟩ := List.mem_map.mp hin
      obtain ⟨log, hlog, rfl⟩ := List.mem_map.mp hrow
      have hnumber : log.blockNumber = stored.blockNumber := congrArg LogPageToken.blockNumber htoken
      have hfrom := (h.logRange log hlog).1
      have hbelow := hlt stored hstored
      omega
    · exact ⟨storedLog log log.blockTimestamp now,
        (mem_insertAll hnew hkeys).mpr (Or.inl (List.mem_map_of_mem hlog)), hn, rfl⟩

end Stream

/-! ## The invariant of the stream -/

section Invariant

variable {cfg : TransferLogStreamConfig} {ledger : HashLedger} {chain chain' : CanonicalChain}
  {data data' : StreamData} {m n : ℕ}

/-- The chain has the blocks below a height, and what is stored there is exactly
theirs. -/
def Held (cfg : TransferLogStreamConfig) (data : StreamData) (chain : CanonicalChain)
    (height : ℕ) : Prop :=
  ∀ n, cfg.startBlock ≤ n → n < height →
    ExactAt cfg data chain.blocks n ∧ n < chain.blocks.length

theorem Held.mono (h : Held cfg data chain m) (hnm : n ≤ m) : Held cfg data chain n :=
  fun k hstart hk => h k hstart (by omega)

theorem leavesBelow_eq_true :
    leavesBelow cfg chain chain' m = true ↔ ∀ n, cfg.startBlock ≤ n → n < m →
      n < chain'.blocks.length
        ∧ transfersAt cfg chain'.blocks n = transfersAt cfg chain.blocks n := by
  unfold leavesBelow leavesAlone
  simp only [List.all_eq_true, List.mem_range, Bool.or_eq_true, Bool.and_eq_true,
    decide_eq_true_eq]
  constructor
  · intro h n hstart hn
    exact (h n hn).resolve_left (by omega)
  · intro h n hn
    by_cases hstart : n < cfg.startBlock
    · exact Or.inl hstart
    · exact Or.inr (h n (by omega) hn)

/-- What is held on a chain is held on one that leaves these blocks alone. -/
theorem Held.newChain (h : Held cfg data chain m) (hleaves : leavesBelow cfg chain chain' n = true)
    (hmn : m ≤ n) : Held cfg data chain' m := by
  intro k hstart hk
  obtain ⟨hlength, hsame⟩ := leavesBelow_eq_true.mp hleaves k hstart (by omega)
  refine ⟨fun log => ?_, hlength⟩
  rw [hsame]
  exact (h k hstart hk).1 log

/-- What the chain holds below a canonical block whose history is stored. -/
theorem HashLedger.Knows.held_of_history (hk : ledger.Knows chain) {last : ℕ} {b : ChainBlock}
    (hb : chain.blockByNumber last = some b)
    (h : ∀ n, cfg.startBlock ≤ n → n ≤ last → ExactAt cfg data (ledger.history b.hash) n) :
    Held cfg data chain (last + 1) := by
  intro n hstart hn
  have hlt := CanonicalChain.lt_length_of_blockByNumber hb
  refine ⟨fun log => ?_, by omega⟩
  rw [h n hstart (by omega) log, hk.transfersAt_history hb (by omega)]

/-- **What the store has of the stream is coherent**: everything stored is below the
cursor; a stored header goes with the logs of its block; the hash of the last
completed block commits to everything stored; and what the stream relies on is
canonical. -/
structure StreamInv (cfg : TransferLogStreamConfig) (ledger : HashLedger) (chain : CanonicalChain)
    (data : StreamData) : Prop where
  start_le : cfg.startBlock ≤ data.cursor.nextBlock
  tokens : (data.logs.map StoredTransferLog.pageToken).Nodup
  numbers : (data.headers.map StoredBlockHeader.blockNumber).Nodup
  logs_lt : ∀ log ∈ data.logs, log.blockNumber < data.cursor.nextBlock
  headers_lt : ∀ header ∈ data.headers, header.blockNumber < data.cursor.nextBlock
  headers_exact : ∀ header ∈ data.headers, cfg.startBlock ≤ header.blockNumber →
    ExactAt cfg data (ledger.history header.blockHash) header.blockNumber
  last_exact : ∀ last hash, data.cursor.lastCompletedBlock = some last →
    data.cursor.lastCompletedHash = some hash →
      cfg.startBlock ≤ last ∧ data.cursor.nextBlock = last + 1
        ∧ ∀ n, cfg.startBlock ≤ n → n ≤ last → ExactAt cfg data (ledger.history hash) n
  held : Held cfg data chain (data.reach cfg)

namespace StreamInv

/-- A new stream has nothing stored. -/
theorem initial (now : Timestamp) : StreamInv cfg ledger chain (.initial cfg now) where
  start_le := le_refl cfg.startBlock
  tokens := List.nodup_nil
  numbers := List.nodup_nil
  logs_lt := fun _ h => absurd h List.not_mem_nil
  headers_lt := fun _ h => absurd h List.not_mem_nil
  headers_exact := fun _ h => absurd h List.not_mem_nil
  last_exact := fun _ _ h => by cases h
  held := by
    intro n hstart hn
    replace hn : n < cfg.startBlock := hn
    omega

/-- The floor is not above the last completed block. -/
theorem reorgFloor_le {last : ℕ} (h : cfg.startBlock ≤ last) : reorgFloor cfg last ≤ last := by
  unfold reorgFloor
  omega

theorem reorgFloor_mono {last last' : ℕ} (h : last ≤ last') :
    reorgFloor cfg last ≤ reorgFloor cfg last' := by
  unfold reorgFloor
  omega

/-- **A chain that leaves alone what the stream relies on** keeps it all. -/
theorem newChain (h : StreamInv cfg ledger chain data)
    (hleaves : leavesBelow cfg chain chain' (data.reach cfg) = true) :
    StreamInv cfg ledger chain' data :=
  { h with held := h.held.newChain hleaves (le_refl _) }

/-- **A rewind to a block everything below of which is held** keeps it all. -/
theorem applyRewind (h : StreamInv cfg ledger chain data) {f : ℕ} (hstart : cfg.startBlock ≤ f)
    (hheld : Held cfg data chain f) (now : Timestamp) :
    StreamInv cfg ledger chain (data.applyRewind f now) where
  start_le := hstart
  tokens := (List.filter_sublist.map _).nodup h.tokens
  numbers := (List.filter_sublist.map _).nodup h.numbers
  logs_lt := fun _ hlog => of_decide_eq_true (List.mem_filter.mp hlog).2
  headers_lt := fun _ hheader => of_decide_eq_true (List.mem_filter.mp hheader).2
  headers_exact := by
    intro header hheader hnumber log
    obtain ⟨hmem, hlt⟩ := List.mem_filter.mp hheader
    rw [StreamData.transfersAt_applyRewind (of_decide_eq_true hlt)]
    exact h.headers_exact header hmem hnumber log
  last_exact := fun _ _ _ hhash => by cases hhash
  held := by
    have hreach : (data.applyRewind f now).reach cfg = f := by
      unfold StreamData.reach
      split
      · rename_i hnone
        cases hnone
      · rfl
    rw [hreach]
    intro n hn hlt
    refine ⟨fun log => ?_, (hheld n hn hlt).2⟩
    rw [StreamData.transfersAt_applyRewind hlt]
    exact (hheld n hn hlt).1 log

/-- A stored header that is canonical goes with the canonical logs of its block. -/
theorem exactAt_of_headerHash (h : StreamInv cfg ledger chain data) (hk : ledger.Knows chain)
    {b : ChainBlock} (hstart : cfg.startBlock ≤ n) (hb : chain.blockByNumber n = some b)
    (hheader : data.headerHash n = some b.hash) : ExactAt cfg data chain.blocks n := by
  obtain ⟨header, hfind, hhash⟩ := Option.map_eq_some_iff.mp hheader
  obtain ⟨hmem, hnumber⟩ := mem_of_find?_key hfind
  intro log
  have hexact := h.headers_exact header hmem (hnumber.symm ▸ hstart) log
  rw [hnumber, hhash, hk.transfersAt_history hb (le_refl n)] at hexact
  exact hexact

end StreamInv

/-! ## Batches -/

/-- **The batch is what the chain has**, and the hash of each header of it commits to the
canonical transfers. -/
structure BatchExact (cfg : TransferLogStreamConfig) (ledger : HashLedger) (chain : CanonicalChain)
    (fromBlock toBlock : ℕ) (logs : List TransferLog) (headers : List (ℕ × ScannedHeader)) :
    Prop where
  logs : ∀ n, fromBlock ≤ n → n ≤ toBlock → ∀ log,
    (log ∈ logs ∧ log.blockNumber = n) ↔ log ∈ transfersAt cfg chain.blocks n
  headers : ∀ e ∈ headers, ∀ n, cfg.startBlock ≤ n → n ≤ e.1 →
    transfersAt cfg (ledger.history e.2.hash) n = transfersAt cfg chain.blocks n
      ∧ n < chain.blocks.length

/-- The batch after a change of the chain that leaves it alone. -/
theorem BatchExact.newChain {fromBlock toBlock : ℕ} {logs : List TransferLog}
    {headers : List (ℕ × ScannedHeader)} {missing : List ℕ}
    (h : BatchExact cfg ledger chain fromBlock toBlock logs headers)
    (hread : BatchRead fromBlock toBlock logs headers missing) (hstart : cfg.startBlock ≤ fromBlock)
    (hleaves : leavesBelow cfg chain chain' (toBlock + 1) = true) :
    BatchExact cfg ledger chain' fromBlock toBlock logs headers := by
  have hsame := leavesBelow_eq_true.mp hleaves
  constructor
  · intro n hfrom hto log
    rw [(hsame n (by omega) (by omega)).2]
    exact h.logs n hfrom hto log
  · intro e he n hn hle
    have hto := (hread.headerRange e he).2.2.1
    obtain ⟨hlength, htransfers⟩ := hsame n hn (by omega)
    rw [htransfers]
    exact ⟨(h.headers e he n hn hle).1, hlength⟩

end Invariant

section Reading

variable {cfg : TransferLogStreamConfig} {ledger : HashLedger}

/-- The headers that come with the logs of an answer are those of their blocks. -/
theorem mem_logHeaders {logs : List TransferLog} (hlogs : ∀ log ∈ logs, ∀ log' ∈ logs,
      log.blockNumber = log'.blockNumber → log.header = log'.header) {e : ℕ × ScannedHeader} :
    e ∈ insertAll Prod.fst (logs.map (fun log => (log.blockNumber, log.header))) []
      ↔ ∃ log ∈ logs, (log.blockNumber, log.header) = e := by
  constructor
  · intro he
    exact List.mem_map.mp ((mem_of_mem_insertAll he).resolve_right List.not_mem_nil)
  · rintro ⟨log, hlog, rfl⟩
    -- a later log of the same block brings the same header
    have hkey : log.blockNumber
        ∈ (insertAll Prod.fst (logs.map (fun log => (log.blockNumber, log.header))) []).map
          Prod.fst := by
      rw [mem_map_insertAll, List.map_map]
      exact Or.inl (List.mem_map_of_mem hlog)
    obtain ⟨e, he, hnumber⟩ := List.mem_map.mp hkey
    obtain ⟨log', hlog', rfl⟩ :=
      List.mem_map.mp ((mem_of_mem_insertAll he).resolve_right List.not_mem_nil)
    rw [← hlogs log' hlog' log hlog hnumber, ← hnumber]
    exact he

/-- The blocks whose headers are asked for are of the batch, its last one among them. -/
theorem headerBlocks_spec (cfg : TransferLogStreamConfig) {logs : List TransferLog}
    {fromBlock toBlock : ℕ} (hle : fromBlock ≤ toBlock)
    (hlogs : ∀ log ∈ logs, fromBlock ≤ log.blockNumber ∧ log.blockNumber ≤ toBlock) :
    (headerBlocks cfg logs fromBlock toBlock).Nodup
      ∧ (∀ n ∈ headerBlocks cfg logs fromBlock toBlock, fromBlock ≤ n ∧ n ≤ toBlock)
      ∧ toBlock ∈ headerBlocks cfg logs fromBlock toBlock := by
  unfold headerBlocks
  by_cases hsparse : cfg.sparseHeaders = true
  · rw [if_pos hsparse]
    refine ⟨(List.perm_insertionSort _ _).nodup_iff.mpr (List.nodup_dedup _), ?_, ?_⟩
    · intro n hn
      rw [mem_sortedSet, List.mem_append, List.mem_singleton] at hn
      rcases hn with hn | rfl
      · obtain ⟨log, hlog, rfl⟩ := List.mem_map.mp hn
        exact hlogs log hlog
      · exact ⟨hle, le_refl _⟩
    · rw [mem_sortedSet]
      exact List.mem_append_right _ (List.mem_singleton_self toBlock)
  · rw [if_neg hsparse]
    refine ⟨List.nodup_range', ?_, ?_⟩
    · intro n hn
      rw [List.mem_range'_1] at hn
      omega
    · rw [List.mem_range'_1]
      omega

/-- **A batch read from the chain**: the headers that came with its logs, and the blocks
still to be asked for. -/
theorem HashLedger.Knows.batch {chain : CanonicalChain} (hk : ledger.Knows chain)
    {fromBlock toBlock : ℕ} (hle : fromBlock ≤ toBlock) {logs : List TransferLog}
    (hlogs : logs = chain.transfersIn (batchRange cfg fromBlock toBlock)) :
    ∃ headers missing, gatherHeaders cfg logs fromBlock toBlock
        = .gathering toBlock logs headers missing
      ∧ BatchRead fromBlock toBlock logs headers missing
      ∧ BatchExact cfg ledger chain fromBlock toBlock logs headers := by
  subst hlogs
  refine ⟨_, _, rfl, ?_, ?_⟩
  all_goals
    have hblock : ∀ log ∈ chain.transfersIn (batchRange cfg fromBlock toBlock),
        ∃ b, chain.blockByNumber log.blockNumber = some b ∧ fromBlock ≤ log.blockNumber
          ∧ log.blockNumber ≤ toBlock ∧ log.header = b.header := by
      intro log hlog
      obtain ⟨b, hb, hfrom, hto, hheader, -⟩ := CanonicalChain.block_of_mem_transfersIn hlog
      exact ⟨b, hb, hfrom, hto, hheader⟩
    have hrange : ∀ log ∈ chain.transfersIn (batchRange cfg fromBlock toBlock),
        fromBlock ≤ log.blockNumber ∧ log.blockNumber ≤ toBlock := by
      intro log hlog
      obtain ⟨b, -, hfrom, hto, -⟩ := hblock log hlog
      exact ⟨hfrom, hto⟩
    have hmem := fun e => mem_logHeaders (e := e) (fun log hlog log' hlog' hnumber => by
      obtain ⟨b, hb, -, -, hheader⟩ := hblock log hlog
      obtain ⟨b', hb', -, -, hheader'⟩ := hblock log' hlog'
      rw [hnumber, hb'] at hb
      rw [hheader, hheader', Option.some.inj hb])
  · obtain ⟨honce, hblocks, htoBlock⟩ := headerBlocks_spec cfg hle hrange
    refine ⟨hle, hk.nodup_tokens _, hrange, nodup_map_insertAll (by simp), ?_, ?_,
      honce.filter _, ?_, ?_⟩
    · intro e he
      obtain ⟨log, hlog, rfl⟩ := (hmem e).mp he
      obtain ⟨b, hb, hfrom, hto, -⟩ := hblock log hlog
      have hlength := CanonicalChain.lt_length_of_blockByNumber hb
      have hnumbers := hk.numbers
      exact ⟨rfl, hfrom, hto, by dsimp only; omega⟩
    · intro log hlog
      exact (hmem _).mpr ⟨log, hlog, rfl⟩
    · intro n hn
      obtain ⟨hn, hout⟩ := List.mem_filter.mp hn
      refine ⟨(hblocks n hn).1, (hblocks n hn).2, ?_⟩
      simpa using hout
    · by_cases hin : toBlock ∈ (insertAll Prod.fst ((chain.transfersIn
          (batchRange cfg fromBlock toBlock)).map (fun log => (log.blockNumber, log.header))) []).map
            Prod.fst
      · exact Or.inl hin
      · exact Or.inr (List.mem_filter.mpr ⟨htoBlock, by simpa using hin⟩)
  · refine ⟨fun n hfrom hto log => CanonicalChain.mem_transfersIn_at hfrom hto log, ?_⟩
    intro e he n hstart hn
    obtain ⟨log, hlog, rfl⟩ := (hmem e).mp he
    obtain ⟨b, hb, -, -, hheader⟩ := hblock log hlog
    have hlength := CanonicalChain.lt_length_of_blockByNumber hb
    dsimp only at hn ⊢
    rw [hheader]
    exact ⟨hk.transfersAt_history hb hn, by omega⟩

end Reading

/-! ## The write of a batch -/

section Write

variable {cfg : TransferLogStreamConfig} {ledger : HashLedger} {chain : CanonicalChain}
  {data data' : StreamData}

/-- **The stream has advanced**: what was there below the cursor is still there. -/
structure Advanced (cfg : TransferLogStreamConfig) (data data' : StreamData) : Prop where
  epoch : data'.cursor.reorgEpoch = data.cursor.reorgEpoch
  next_lt : data.cursor.nextBlock < data'.cursor.nextBlock
  transfers : ∀ n < data.cursor.nextBlock, ∀ log,
    log ∈ data'.transfersAt n ↔ log ∈ data.transfersAt n
  headers : ∀ n < data.cursor.nextBlock, data'.headerHash n = data.headerHash n
  floor_le : ∀ last < data.cursor.nextBlock, reorgFloor cfg last ≤ data'.reach cfg

theorem Advanced.exactAt (h : Advanced cfg data data') {blocks : List ChainBlock} {n : ℕ}
    (hn : n < data.cursor.nextBlock) (hexact : ExactAt cfg data blocks n) :
    ExactAt cfg data' blocks n :=
  fun log => (h.transfers n hn log).trans (hexact log)

variable {toBlock : ℕ} {logs : List TransferLog} {headers : List (ℕ × ScannedHeader)}

/-- The headers stored by a write are under the numbers of the batch. -/
theorem BatchRead.map_storedHeader {fromBlock : ℕ}
    (h : BatchRead fromBlock toBlock logs headers []) (now : Timestamp) :
    (((headers.map Prod.snd).map (fun header => storedHeader cfg header now)).map
      StoredBlockHeader.blockNumber) = headers.map Prod.fst := by
  rw [← h.map_number, List.map_map]
  rfl

variable (hs : StreamInv cfg ledger chain data)
  (h : BatchRead data.cursor.nextBlock toBlock logs headers [])

include hs h

/-- **A write advances the stream.** -/
theorem StreamInv.advanced_write (now : Timestamp) :
    Advanced cfg data
      (data.write cfg data.cursor.nextBlock toBlock logs (headers.map Prod.snd) now).1 := by
  have horder := h.order
  have hmem := h.mem_transfersAt_write cfg hs.tokens hs.logs_lt now
  obtain ⟨header, -, heq⟩ := h.write_eq cfg data now
  refine ⟨by rw [heq], by rw [heq]; dsimp only; omega, ?_, ?_, ?_⟩
  · intro n hn log
    rw [hmem n log]
    constructor
    · rintro (hlog | ⟨hlog, rfl⟩)
      · exact hlog
      · have hfrom := (h.logRange log hlog).1
        omega
    · exact Or.inl
  · intro n hn
    rw [heq]
    unfold StreamData.headerHash
    dsimp only
    rw [find?_insertAll_of_not_mem]
    rw [h.map_storedHeader now]
    intro hin
    obtain ⟨e, he, rfl⟩ := List.mem_map.mp hin
    have hfrom := (h.headerRange e he).2.1
    omega
  · intro last hlast
    rw [heq]
    exact StreamInv.reorgFloor_mono (by omega)

/-- **The stream after the write of an exact batch.** -/
theorem StreamInv.write (hheld : Held cfg data chain data.cursor.nextBlock)
    (hexact : BatchExact cfg ledger chain data.cursor.nextBlock toBlock logs headers)
    (now : Timestamp) :
    StreamInv cfg ledger chain
      (data.write cfg data.cursor.nextBlock toBlock logs (headers.map Prod.snd) now).1 := by
  have hadv := hs.advanced_write h now
  have hmem := h.mem_transfersAt_write cfg hs.tokens hs.logs_lt now
  have hstart := hs.start_le
  have horder := h.order
  obtain ⟨header, hheader, heq⟩ := h.write_eq cfg data now
  -- every block up to the last of the batch is exact now
  have hall : ∀ n, cfg.startBlock ≤ n → n ≤ toBlock → ExactAt cfg
      (data.write cfg data.cursor.nextBlock toBlock logs (headers.map Prod.snd) now).1
        chain.blocks n := by
    intro n hn hle
    by_cases hbelow : n < data.cursor.nextBlock
    · exact hadv.exactAt hbelow (hheld n hn hbelow).1
    · intro log
      rw [hmem n log, ← hexact.logs n (by omega) hle log]
      constructor
      · rintro (hlog | hlog)
        · obtain ⟨stored, hstored, hnumber, -⟩ := StreamData.mem_transfersAt.mp hlog
          have hlt := hs.logs_lt stored hstored
          omega
        · exact hlog
      · exact Or.inr
  have hnew : ∀ header' ∈ (headers.map Prod.snd).map (fun header => storedHeader cfg header now),
      ∃ e ∈ headers, header'.blockNumber = e.1 ∧ header'.blockHash = e.2.hash := by
    intro header' hheader'
    obtain ⟨scanned, hscanned, rfl⟩ := List.mem_map.mp hheader'
    obtain ⟨e, he, rfl⟩ := List.mem_map.mp hscanned
    exact ⟨e, he, (h.headerRange e he).1, rfl⟩
  refine ⟨?_, ?_, ?_, ?_, ?_, ?_, ?_, ?_⟩
  · rw [heq]
    dsimp only
    omega
  · rw [heq]
    exact nodup_map_insertAll hs.tokens
  · rw [heq]
    exact nodup_map_insertAll hs.numbers
  · intro stored hstored
    have hlog := StreamData.mem_transfersAt.mpr ⟨stored, hstored, rfl, rfl⟩
    rw [heq]
    show stored.blockNumber < toBlock + 1
    rcases (hmem _ _).mp hlog with hold | ⟨hlog, hnumber⟩
    · obtain ⟨stored', hstored', hnumber, -⟩ := StreamData.mem_transfersAt.mp hold
      have hlt := hs.logs_lt stored' hstored'
      omega
    · have hto := (h.logRange _ hlog).2
      omega
  · intro header' hheader'
    rw [heq] at hheader' ⊢
    show header'.blockNumber < toBlock + 1
    rcases mem_of_mem_insertAll hheader' with hin | hin
    · obtain ⟨e, he, hnumber, -⟩ := hnew header' hin
      have hto := (h.headerRange e he).2.2.1
      omega
    · have hlt := hs.headers_lt header' hin
      omega
  · intro header' hheader' hn
    have hmember := hheader'
    rw [heq] at hmember
    rcases mem_of_mem_insertAll hmember with hin | hin
    · obtain ⟨e, he, hnumber, hhash⟩ := hnew header' hin
      have hto := (h.headerRange e he).2.2.1
      intro log
      rw [hall _ hn (by omega) log, hhash,
        (hexact.headers e he header'.blockNumber hn (by omega)).1]
    · exact hadv.exactAt (hs.headers_lt header' hin) (hs.headers_exact header' hin hn)
  · intro last hash hlast hhash
    rw [heq] at hlast hhash
    obtain rfl := Option.some.inj hlast
    obtain rfl := Option.some.inj hhash
    refine ⟨by omega, by rw [heq], fun n hn hle => ?_⟩
    intro log
    rw [hall n hn hle log, (hexact.headers _ hheader n hn hle).1]
  · have hreach : (data.write cfg data.cursor.nextBlock toBlock logs
        (headers.map Prod.snd) now).1.reach cfg ≤ toBlock := by
      rw [heq]
      exact StreamInv.reorgFloor_le (by omega)
    intro n hn hlt
    exact ⟨hall n hn (by omega), (hexact.headers _ hheader n hn (by dsimp only; omega)).2⟩

end Write
