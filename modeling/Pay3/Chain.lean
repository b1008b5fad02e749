import Pay3.Domain
import Mathlib.Data.List.Nodup
import Mathlib.Data.List.Pairwise

/-!
# The canonical chain

What a node answers from: the blocks of the canonical chain, from the genesis
block to the head. The number of a block is its position, a transaction is
mined at most once, and so a log is named by its transaction hash and log
index. A reorganisation is the replacement of one chain by another; nothing
relates the two.

`latestHead`, `blockByNumber`, `transactionReceipt` and `getLogs` are the answers
of an honest node to the four calls of that name.
-/

/-- A `Transfer` event as it stands in a block. -/
structure Transfer where
  tokenAddress : EvmAddress
  txHash : TxHash
  logIndex : ℕ
  fromAddress : EvmAddress
  toAddress : EvmAddress
  amountRaw : RawAmount
  deriving DecidableEq

/-- The name of a log on its chain. -/
def Transfer.position (t : Transfer) : TxHash × ℕ := (t.txHash, t.logIndex)

/-- A block with the outcomes and the token transfers of its transactions. -/
structure ChainBlock where
  number : ℕ
  hash : BlockHash
  timestamp : Timestamp
  receipts : List (TxHash × TransactionStatus)
  transfers : List Transfer
  deriving DecidableEq

/-- `block_ref`. -/
def ChainBlock.blockRef (b : ChainBlock) : ChainBlockRef := ⟨b.number, b.hash⟩

/-- `TxReceipt`. -/
structure TxReceipt where
  txHash : TxHash
  block : ChainBlockRef
  status : TransactionStatus
  deriving DecidableEq

/-- `TransferLogRange`. -/
structure TransferLogRange where
  chainId : ℕ
  tokenAddress : EvmAddress
  fromBlock : ℕ
  toBlock : ℕ
  recipient : Option EvmAddress
  deriving DecidableEq

/-- `ParsedTransferLog`: a transfer with the name of the block it stands in, as
`eth_getLogs` returns it. -/
structure ParsedTransferLog extends Transfer where
  blockNumber : ℕ
  blockHash : BlockHash
  deriving DecidableEq

/-- `TransferLog`: a transfer with the header of its block. -/
structure TransferLog extends ParsedTransferLog where
  chainId : ℕ
  blockTimestamp : Timestamp
  deriving DecidableEq

/-- The errors of the calls to a node. -/
inductive ChainError
  | rpcUnavailable (message : String)
  | malformedRpcResponse (message : String)
  | providerHashMismatch (context : String) (leftHash rightHash : BlockHash)
  | invalidBlockRange (fromBlock toBlock : ℕ)
  | blockNotFound (number : ℕ)
  deriving DecidableEq

/-- **A canonical chain.** -/
structure CanonicalChain where
  blocks : List ChainBlock
  nonempty : blocks ≠ []
  numbered : ∀ p ∈ blocks.zipIdx, p.1.number = p.2
  mined_once : ((blocks.flatMap ChainBlock.receipts).map Prod.fst).Nodup
  logged_once : ((blocks.flatMap ChainBlock.transfers).map Transfer.position).Nodup

namespace CanonicalChain

/-- `latest_head`. -/
def latestHead (chain : CanonicalChain) : ChainBlockRef :=
  (chain.blocks.getLast chain.nonempty).blockRef

/-- `block_by_number`, `none` above the head. -/
def blockByNumber (chain : CanonicalChain) (number : ℕ) : Option ChainBlock :=
  chain.blocks[number]?

/-- The canonical hash of a block number. -/
def hashAt (chain : CanonicalChain) (number : ℕ) : Option BlockHash :=
  (chain.blockByNumber number).map ChainBlock.hash

/-- **The block is canonical.** -/
def IsCanonical (chain : CanonicalChain) (b : ChainBlockRef) : Prop :=
  chain.hashAt b.number = some b.hash

instance (chain : CanonicalChain) (b : ChainBlockRef) : Decidable (chain.IsCanonical b) :=
  inferInstanceAs (Decidable (_ = _))

/-- `transaction_receipt`: the outcome of the transaction, in the block that
mined it. -/
def transactionReceipt (chain : CanonicalChain) (txHash : TxHash) : Option TxReceipt :=
  chain.blocks.findSome? (fun b =>
    (b.receipts.find? (fun r => decide (r.1 = txHash))).map
      (fun r => ⟨txHash, b.blockRef, r.2⟩))

/-- `eth_getLogs`: the transfers of the token in the blocks of the range, to the
recipient if one is asked for. -/
def getLogs (chain : CanonicalChain) (range : TransferLogRange) : List ParsedTransferLog :=
  (chain.blocks.filter (fun b => decide (range.fromBlock ≤ b.number) &&
      decide (b.number ≤ range.toBlock))).flatMap
    (fun b => (b.transfers.filter (fun t => decide (t.tokenAddress = range.tokenAddress) &&
        range.recipient.all (fun r => decide (t.toAddress = r)))).map
      (fun t => ⟨t, b.number, b.hash⟩))

/-- The block a number leads to has that number. -/
theorem number_of_blockByNumber {chain : CanonicalChain} {n : ℕ} {b : ChainBlock}
    (h : chain.blockByNumber n = some b) : b.number = n := by
  refine chain.numbered (b, n) (List.mem_iff_getElem?.mpr ⟨n, ?_⟩)
  rw [List.getElem?_zipIdx, show chain.blocks[n]? = some b from h]
  simp

/-- A block of the chain is the one its number leads to. -/
theorem blockByNumber_of_mem {chain : CanonicalChain} {b : ChainBlock} (hb : b ∈ chain.blocks) :
    chain.blockByNumber b.number = some b := by
  obtain ⟨n, hn⟩ := List.mem_iff_getElem?.mp hb
  rw [show b.number = n from number_of_blockByNumber hn]
  exact hn

/-- What a block of the chain logs is answered for every range that covers it. -/
theorem mem_getLogs {chain : CanonicalChain} {range : TransferLogRange} {log : ParsedTransferLog} :
    log ∈ chain.getLogs range
      ↔ ∃ b ∈ chain.blocks, range.fromBlock ≤ b.number ∧ b.number ≤ range.toBlock
        ∧ ∃ t ∈ b.transfers, t.tokenAddress = range.tokenAddress
          ∧ range.recipient.all (fun r => decide (t.toAddress = r)) = true
          ∧ log = ⟨t, b.number, b.hash⟩ := by
  unfold getLogs
  rw [List.mem_flatMap]
  constructor
  · rintro ⟨b, hb, hlog⟩
    obtain ⟨hb, hrange⟩ := List.mem_filter.mp hb
    obtain ⟨t, ht, rfl⟩ := List.mem_map.mp hlog
    obtain ⟨ht, hcond⟩ := List.mem_filter.mp ht
    simp only [Bool.and_eq_true, decide_eq_true_eq] at hrange hcond
    exact ⟨b, hb, hrange.1, hrange.2, t, ht, hcond.1, hcond.2, rfl⟩
  · rintro ⟨b, hb, hfrom, hto, t, ht, htoken, hrec, rfl⟩
    refine ⟨b, List.mem_filter.mpr ⟨hb, by simp [hfrom, hto]⟩, List.mem_map.mpr ⟨t, ?_, rfl⟩⟩
    exact List.mem_filter.mpr ⟨ht, by simp [htoken, hrec]⟩

/-- The block of a log the chain answered is canonical. -/
theorem isCanonical_of_mem_getLogs {chain : CanonicalChain} {range : TransferLogRange}
    {log : ParsedTransferLog} (h : log ∈ chain.getLogs range) :
    chain.IsCanonical ⟨log.blockNumber, log.blockHash⟩ := by
  obtain ⟨b, hb, -, -, t, -, -, -, rfl⟩ := mem_getLogs.mp h
  show chain.hashAt b.number = some b.hash
  unfold hashAt
  rw [blockByNumber_of_mem hb]
  rfl

/-- A log of the chain is named by its transaction and its index: two logs with
one name are the same, in the same block. -/
theorem eq_of_position_eq {chain : CanonicalChain} {b b' : ChainBlock} {t t' : Transfer}
    (hb : b ∈ chain.blocks) (hb' : b' ∈ chain.blocks) (ht : t ∈ b.transfers)
    (ht' : t' ∈ b'.transfers) (hpos : t.position = t'.position) : b = b' ∧ t = t' := by
  have hnd := chain.logged_once
  rw [List.map_flatMap, List.nodup_flatMap] at hnd
  have hblock : b = b' := by
    by_contra hne
    have hsymm : Std.Symm (Function.onFun List.Disjoint
        (fun b : ChainBlock => b.transfers.map Transfer.position)) := ⟨fun _ _ h _ hx hy => h hy hx⟩
    have hdisj := hnd.2.forall hb hb' hne
    exact hdisj (List.mem_map_of_mem ht) (hpos ▸ List.mem_map_of_mem ht')
  subst hblock
  exact ⟨rfl, List.inj_on_of_nodup_map (hnd.1 b hb) ht ht' hpos⟩

/-- So an answer names every log once. -/
theorem eq_of_mem_getLogs {chain : CanonicalChain} {range range' : TransferLogRange}
    {log log' : ParsedTransferLog} (h : log ∈ chain.getLogs range)
    (h' : log' ∈ chain.getLogs range')
    (hpos : log.toTransfer.position = log'.toTransfer.position) : log = log' := by
  obtain ⟨b, hb, -, -, t, ht, -, -, rfl⟩ := mem_getLogs.mp h
  obtain ⟨b', hb', -, -, t', ht', -, -, rfl⟩ := mem_getLogs.mp h'
  obtain ⟨rfl, rfl⟩ := eq_of_position_eq hb hb' ht ht' hpos
  rfl

end CanonicalChain
