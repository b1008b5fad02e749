import Pay3.ManualVerify
import Pay3.MatcherAgreement
import Pay3.ScanCompleteness
import Pay3.Tiling

/-!
# What a verification finds

A verification asks for the transfers to one address and matches them against
one candidate, read from the order. A scan asks for every transfer of the token,
in batches, and looks the candidates of each batch up by address. Asked of the
same chain, both find the same payments for the order: addresses belong to one
order, so a transfer to the order has the order's candidate and no other, and a
transfer elsewhere has none of it.

The batches are arbitrary, as long as every block of the range is in one of
them.
-/

/-! ## An honest source -/

namespace CanonicalChain

variable (chain : CanonicalChain)

/-- The transfers of one block that a range asks for, with the header of the
block. -/
def blockTransfers (range : TransferLogRange) (b : ChainBlock) : List TransferLog :=
  (b.transfers.filter (fun t => decide (t.tokenAddress = range.tokenAddress) &&
      range.recipient.all (fun r => decide (t.toAddress = r)))).map
    (fun t => ⟨⟨t, b.number, b.hash⟩, range.chainId, b.timestamp⟩)

/-- The transfers a range asks for, block by block. -/
def transfersIn (range : TransferLogRange) : List TransferLog :=
  (chain.blocks.filter (fun b => decide (range.fromBlock ≤ b.number) &&
    decide (b.number ≤ range.toBlock))).flatMap (blockTransfers range)

/-- **A source that answers from the chain**: `eth_getLogs` with the headers of
the chain, under a head. -/
def source (head : ChainBlockRef) : ChainSource where
  latestHead := .ok head
  transferLogs := fun range =>
    if range.fromBlock ≤ range.toBlock then
      attachHeaders range.chainId chain.blocks (chain.getLogs range)
    else .error (.invalidBlockRange range.fromBlock range.toBlock)
  blockByNumber := fun n => orError (chain.blockByNumber n) (.blockNotFound n)

/-- The header of a block of the chain is found under its number. -/
theorem find?_blocks {b : ChainBlock} (hb : b ∈ chain.blocks) :
    chain.blocks.find? (fun c => decide (c.number = b.number)) = some b := by
  have hsome : (chain.blocks.find? (fun c => decide (c.number = b.number))).isSome = true := by
    rw [List.find?_isSome]
    exact ⟨b, hb, decide_eq_true rfl⟩
  obtain ⟨c, hc⟩ := Option.isSome_iff_exists.mp hsome
  obtain ⟨hmem, hnumber⟩ := mem_of_find?_key hc
  have hsame := blockByNumber_of_mem hmem
  rw [hnumber, blockByNumber_of_mem hb] at hsame
  rw [hc, Option.some.inj hsame]

/-- Every log of an answer is completed with the header of its block. -/
theorem collectOk_attachHeader (range : TransferLogRange) :
    collectOk (attachHeader range.chainId chain.blocks) (chain.getLogs range)
      = .ok (chain.transfersIn range) := by
  refine collectOk_eq_of_map_eq ?_
  unfold getLogs transfersIn
  rw [List.map_flatMap, List.map_flatMap]
  refine List.flatMap_congr (fun b hb => ?_)
  unfold blockTransfers
  rw [List.map_map, List.map_map]
  refine List.map_congr_left (fun t _ => ?_)
  show attachHeader range.chainId chain.blocks ⟨t, b.number, b.hash⟩ = _
  unfold attachHeader
  rw [chain.find?_blocks (List.mem_filter.mp hb).1]
  exact if_pos rfl

/-- **An honest answer** is the transfers of the range, put in order. -/
theorem perm_of_source {head : ChainBlockRef} {range : TransferLogRange} {logs : List TransferLog}
    (h : (chain.source head).transferLogs range = .ok logs) :
    logs.Perm (chain.transfersIn range) := by
  unfold source at h
  dsimp only at h
  by_cases hle : range.fromBlock ≤ range.toBlock
  · rw [if_pos hle] at h
    obtain ⟨completed, hcompleted, rfl⟩ := Except.map_eq_ok.mp h
    rw [chain.collectOk_attachHeader range] at hcompleted
    obtain rfl := Except.ok.inj hcompleted
    exact List.perm_insertionSort _ _
  · rw [if_neg hle] at h
    cases h

/-- A transfer that was asked for is of the chain and the token asked for. -/
theorem of_mem_transfersIn {range : TransferLogRange} {log : TransferLog}
    (h : log ∈ chain.transfersIn range) :
    log.chainId = range.chainId ∧ log.tokenAddress = range.tokenAddress := by
  obtain ⟨b, -, hlog⟩ := List.mem_flatMap.mp h
  obtain ⟨t, ht, rfl⟩ := List.mem_map.mp hlog
  have hcond := (List.mem_filter.mp ht).2
  simp only [Bool.and_eq_true, decide_eq_true_eq] at hcond
  exact ⟨rfl, hcond.1⟩

/-- Asking for a recipient is asking for everything and keeping what went there. -/
theorem transfersIn_recipient (stream : StreamId) (a b : ℕ) (address : EvmAddress) :
    chain.transfersIn ⟨stream.chainId, stream.tokenAddress, a, b, some address⟩
      = (chain.transfersIn ⟨stream.chainId, stream.tokenAddress, a, b, none⟩).filter
        (fun log => decide (log.toAddress = address)) := by
  unfold transfersIn
  rw [List.filter_flatMap]
  refine List.flatMap_congr (fun c _ => ?_)
  unfold blockTransfers
  rw [List.filter_map, List.filter_filter]
  refine congrArg (List.map _) (List.filter_congr (fun t _ => ?_))
  simp [Bool.and_comm]

end CanonicalChain

/-! ## Batches -/

/-- **The ranges partition an interval of blocks**: each is a range, and every
block of the interval is in exactly one of them. -/
structure PartitionsRange (fromBlock toBlock : ℕ) (parts : List (ℕ × ℕ)) : Prop where
  ordered : ∀ p ∈ parts, p.1 ≤ p.2
  once : ∀ n, parts.countP (fun p => decide (p.1 ≤ n) && decide (n ≤ p.2))
    = if fromBlock ≤ n ∧ n ≤ toBlock then 1 else 0

/-- The transfers of the parts are the transfers of the interval. -/
theorem PartitionsRange.perm_transfersIn {a b : ℕ} {parts : List (ℕ × ℕ)}
    (h : PartitionsRange a b parts) (chain : CanonicalChain) (stream : StreamId) :
    (parts.flatMap (fun p =>
        chain.transfersIn ⟨stream.chainId, stream.tokenAddress, p.1, p.2, none⟩)).Perm
      (chain.transfersIn ⟨stream.chainId, stream.tokenAddress, a, b, none⟩) := by
  have hblocks := perm_flatMap_filter
    (fun (p : ℕ × ℕ) (c : ChainBlock) => decide (p.1 ≤ c.number) && decide (c.number ≤ p.2))
    (fun c => decide (a ≤ c.number) && decide (c.number ≤ b)) parts chain.blocks
    (fun c _ => by rw [h.once]; simp)
  have hflat := hblocks.flatMap_right (CanonicalChain.blockTransfers
    ⟨stream.chainId, stream.tokenAddress, a, b, none⟩)
  rw [List.flatMap_assoc] at hflat
  exact hflat

/-- **`match_range`** over a source. -/
def matchRange (cfg : PaymentScannerConfig) (source : ChainSource) (db : PaymentDb)
    (newId : ℕ → Uuid) (fromBlock toBlock : ℕ) :
    Except PaymentMatchingError (List MatchedPaymentInput) := do
  ensure (decide (cfg.maxUniqueToAddressesPerBatch ≠ 0))
    (.invalidConfig "max_unique_to_addresses_per_batch")
  let range : TransferLogRange :=
    ⟨cfg.stream.chainId, cfg.stream.tokenAddress, fromBlock, toBlock, none⟩
  let logs ← (source.transferLogs range).mapError PaymentMatchingError.chain
  let head ← source.latestHead.mapError PaymentMatchingError.chain
  let lookupAddresses := sortedSet (logs.map (fun log => log.toAddress))
  ensure (decide (lookupAddresses.length ≤ cfg.maxUniqueToAddressesPerBatch))
    (.uniqueAddressLimitExceeded lookupAddresses.length cfg.maxUniqueToAddressesPerBatch)
  let candidates ←
    if lookupAddresses.isEmpty then pure [] else lookupBatch cfg db lookupAddresses
  pure (matchTransferLogs cfg.stream cfg.minConfirmations logs candidates head newId)

/-- What a batch matched, and against which candidates. -/
theorem matchRange_eq_ok {cfg : PaymentScannerConfig} {source : ChainSource} {db : PaymentDb}
    {newId : ℕ → Uuid} {a b : ℕ} {matched : List MatchedPaymentInput}
    (h : matchRange cfg source db newId a b = .ok matched) :
    ∃ logs head candidates,
      source.transferLogs ⟨cfg.stream.chainId, cfg.stream.tokenAddress, a, b, none⟩ = .ok logs
      ∧ source.latestHead = .ok head
      ∧ (logs = [] ∨ lookupPaymentWindowCandidates db cfg.stream
          (sortedSet (logs.map (fun log => log.toAddress))) = .ok candidates)
      ∧ matched = matchTransferLogs cfg.stream cfg.minConfirmations logs candidates head newId := by
  unfold matchRange at h
  obtain ⟨-, h⟩ := ensure_bind_eq_ok.mp h
  obtain ⟨logs, hlogs, h⟩ := Except.bind_eq_ok.mp h
  obtain ⟨head, hhead, h⟩ := Except.bind_eq_ok.mp h
  obtain ⟨-, h⟩ := ensure_bind_eq_ok.mp h
  refine ⟨logs, head, ?_⟩
  cases hempty : (sortedSet (logs.map (fun log => log.toAddress))).isEmpty with
  | true =>
    rw [hempty, if_pos rfl] at h
    have hnil : logs = [] := by
      refine List.eq_nil_iff_forall_not_mem.mpr (fun log hlog => ?_)
      have hmem : log.toAddress ∈ sortedSet (logs.map (fun log => log.toAddress)) :=
        mem_sortedSet.mpr (List.mem_map_of_mem hlog)
      rw [List.isEmpty_iff.mp hempty] at hmem
      exact List.not_mem_nil hmem
    exact ⟨[], Except.mapError_eq_ok.mp hlogs, Except.mapError_eq_ok.mp hhead, Or.inl hnil,
      (Except.pure_eq_ok.mp h).symm⟩
  | false =>
    rw [hempty, if_neg (by decide)] at h
    obtain ⟨candidates, hlookup, h⟩ := Except.bind_eq_ok.mp h
    unfold lookupBatch at hlookup
    obtain ⟨-, hlookup⟩ := ensure_bind_eq_ok.mp hlookup
    obtain ⟨-, hlookup⟩ := ensure_bind_eq_ok.mp hlookup
    exact ⟨candidates, Except.mapError_eq_ok.mp hlogs, Except.mapError_eq_ok.mp hhead,
      Or.inr (Except.mapError_eq_ok.mp hlookup), (Except.pure_eq_ok.mp h).symm⟩

/-! ## The candidate of an order -/

section Order

variable {db : PaymentDb} {o : OrderRecord} {w : PaymentWindowRecord}

/-- A row is read as the candidate a verification builds. -/
theorem candidateFromOrderView_of_ok {c : PaymentWindowCandidate}
    (h : paymentWindowCandidate o w = .ok c) (haddress : w.receiveAddress = o.receiveAddress) :
    c = candidateFromOrderView o w := by
  obtain ⟨paid, hpaid, h⟩ := Except.bind_eq_ok.mp h
  have hraw : paid = BitVec.ofNat 256 o.paidAmountRaw := by
    rw [← bigDecimalToRawAmount_toNat hpaid]
    simp
  rw [← Except.pure_eq_ok.mp h, hraw, haddress]
  rfl

/-- **The candidate found at an address** is that of the order of the address. -/
theorem PaymentDb.Directory.order_of_candidate (hdir : db.Directory) {stream : StreamId}
    {toAddresses : List EvmAddress} {candidates : List PaymentWindowCandidate}
    (hlookup : lookupPaymentWindowCandidates db stream toAddresses = .ok candidates)
    {log : TransferLog} (hto : log.toAddress ∈ toAddresses) {c : PaymentWindowCandidate}
    (hc : c ∈ candidatesForTransferLog stream log candidates) :
    ∃ o ∈ db.orders, ∃ w ∈ db.windows, w.orderId = o.id ∧ o.receiveAddress = log.toAddress
      ∧ c = candidateFromOrderView o w := by
  obtain ⟨hc, hcond⟩ := List.mem_filter.mp hc
  simp only [Bool.and_eq_true, decide_eq_true_eq] at hcond
  obtain ⟨-, hfrom, -⟩ := mem_of_lookup hlookup (List.ne_nil_of_mem hto)
  obtain ⟨⟨o, w⟩, hrow, hcand⟩ := hfrom c hc
  obtain ⟨hw, ho, hid, -, -, -⟩ := mem_windowRows.mp hrow
  have haddress := hdir.sameAddress w hw o ho hid
  obtain ⟨-, hreceive, -, -⟩ := paymentWindowCandidate_eq_ok hcand
  exact ⟨o, ho, w, hw, hid.symm, (haddress.symm.trans hreceive.symm).trans hcond.1.1.2,
    candidateFromOrderView_of_ok hcand haddress⟩

/-- The payment a scan makes of a transfer, if it is one to the order. -/
theorem PaymentDb.Directory.anonymousPayment_eq (hdir : db.Directory) (ho : o ∈ db.orders)
    (hw : w ∈ db.windows) (hwo : w.orderId = o.id) {stream : StreamId}
    (hstream : stream = ⟨o.chainId, o.tokenAddress⟩) {toAddresses : List EvmAddress}
    {candidates : List PaymentWindowCandidate}
    (hlookup : lookupPaymentWindowCandidates db stream toAddresses = .ok candidates)
    {log : TransferLog} (hto : log.toAddress ∈ toAddresses) (hchain : log.chainId = stream.chainId)
    (htoken : log.tokenAddress = stream.tokenAddress) (minConfirmations : ℕ)
    (head : ChainBlockRef) :
    (anonymousPayment stream minConfirmations candidates head log).filter
        (fun m => decide (m.orderId = o.id))
      = if decide (log.toAddress = o.receiveAddress) then
          some (matchedPaymentInput 0 log (candidateFromOrderView o w) head minConfirmations)
        else none := by
  unfold anonymousPayment
  by_cases haddress : log.toAddress = o.receiveAddress
  · rw [if_pos (decide_eq_true haddress)]
    have hknown : db.knows stream log.toAddress = true :=
      knows_eq_true.mpr ⟨o, ho, by rw [hstream], by rw [hstream], haddress.symm⟩
    obtain ⟨c, hc⟩ := hdir.candidatesForTransferLog_eq hlookup hto hchain htoken hknown
    obtain ⟨o', ho', w', hw', hwo', hreceive, rfl⟩ := hdir.order_of_candidate hlookup hto
      (hc ▸ List.mem_singleton_self c)
    obtain rfl : o' = o :=
      List.inj_on_of_nodup_map hdir.addresses ho' ho (hreceive.trans haddress)
    obtain rfl : w' = w := List.inj_on_of_nodup_map hdir.windowIds hw' hw (hwo'.trans hwo.symm)
    rw [hc, selectCandidate_singleton, Option.map_some]
    exact Option.filter_some_pos (decide_eq_true rfl)
  · rw [if_neg (by simpa using haddress)]
    cases hselect : selectCandidate log (candidatesForTransferLog stream log candidates) with
    | none => rfl
    | some c =>
      obtain ⟨o', ho', w', -, -, hreceive, rfl⟩ := hdir.order_of_candidate hlookup hto
        (mem_of_selectCandidate hselect)
      have hne : o'.id ≠ o.id := by
        intro hid
        obtain rfl := List.inj_on_of_nodup_map hdir.ids ho' ho hid
        exact haddress hreceive.symm
      rw [Option.map_some]
      exact Option.filter_some_neg (decide_eq_false hne)

/-- The payments of a verification are the transfers it was answered. -/
theorem anonymous_matchTransferLogs_singleton {stream : StreamId} {logs : List TransferLog}
    (hstream : stream = ⟨o.chainId, o.tokenAddress⟩)
    (hlogs : ∀ log ∈ logs, log.chainId = stream.chainId ∧ log.tokenAddress = stream.tokenAddress
      ∧ log.toAddress = o.receiveAddress)
    (minConfirmations : ℕ) (head : ChainBlockRef) (newId : ℕ → Uuid) :
    (matchTransferLogs stream minConfirmations logs [candidateFromOrderView o w] head newId).map
        PaymentRecord.anonymous
      = logs.map (fun log =>
          matchedPaymentInput 0 log (candidateFromOrderView o w) head minConfirmations) := by
  rw [anonymous_matchTransferLogs, ← List.filterMap_eq_map]
  refine List.filterMap_congr (fun log hlog => ?_)
  obtain ⟨hchain, htoken, hto⟩ := hlogs log hlog
  have hone : candidatesForTransferLog stream log [candidateFromOrderView o w]
      = [candidateFromOrderView o w] := by
    unfold candidatesForTransferLog
    exact List.filter_cons_of_pos (by simp [candidateFromOrderView, hchain, htoken, hto, hstream])
  unfold anonymousPayment
  rw [hone, selectCandidate_singleton]
  rfl

/-- **The payments a batch finds for an order** are the transfers to it. -/
theorem PaymentDb.Directory.perm_of_matchRange (hdir : db.Directory) (ho : o ∈ db.orders)
    (hw : w ∈ db.windows) (hwo : w.orderId = o.id) {cfg : PaymentScannerConfig}
    (hstream : cfg.stream = ⟨o.chainId, o.tokenAddress⟩) {chain : CanonicalChain}
    {head : ChainBlockRef} {newId : ℕ → Uuid} {a b : ℕ} {matched : List MatchedPaymentInput}
    (h : matchRange cfg (chain.source head) db newId a b = .ok matched) :
    ((matched.filter (fun m => decide (m.orderId = o.id))).map PaymentRecord.anonymous).Perm
      (((chain.transfersIn ⟨cfg.stream.chainId, cfg.stream.tokenAddress, a, b, none⟩).filter
          (fun log => decide (log.toAddress = o.receiveAddress))).map
        (fun log => matchedPaymentInput 0 log (candidateFromOrderView o w) head
          cfg.minConfirmations)) := by
  obtain ⟨logs, head', candidates, hlogs, hhead, hlookup, rfl⟩ := matchRange_eq_ok h
  obtain rfl : head = head' := Except.ok.inj hhead
  have hperm := chain.perm_of_source hlogs
  refine List.Perm.trans (List.Perm.of_eq ?_) ((hperm.filter _).map _)
  -- the order a payment is for does not depend on its id
  rw [show (fun m : MatchedPaymentInput => decide (m.orderId = o.id))
    = (fun m : MatchedPaymentInput => decide (m.orderId = o.id)) ∘ PaymentRecord.anonymous from rfl,
    ← List.filter_map, anonymous_matchTransferLogs, List.filter_filterMap, ← List.filterMap_eq_map,
    List.filterMap_filter]
  refine List.filterMap_congr (fun log hlog => ?_)
  rcases hlookup with rfl | hlookup
  · exact absurd hlog List.not_mem_nil
  · obtain ⟨hchain, htoken⟩ := chain.of_mem_transfersIn (hperm.subset hlog)
    exact hdir.anonymousPayment_eq ho hw hwo hstream hlookup
      (mem_sortedSet.mpr (List.mem_map_of_mem hlog)) hchain htoken cfg.minConfirmations head

end Order

/-- **A verification finds what a scan finds.** Over one chain, under one head and
over one directory of orders: the payments a verification is about to record for
an order are, their ids apart, the payments of that order that the batches of a
scan of its token record, however the blocks from the window of the order to the
head are split into batches. -/
theorem verify_finds_scanned (chain : CanonicalChain) (head : ChainBlockRef) (db : PaymentDb)
    (cfg : PaymentScannerConfig) (maxLogsPerOrder : ℕ) (newId : ℕ → Uuid) (orderId : Uuid)
    (ownerSub : Option String) (w : PaymentWindowRecord) (parts : List (ℕ × ℕ)) {o : OrderRecord}
    {verified : List MatchedPaymentInput} {toBlock : ℕ}
    {scanned : List (List MatchedPaymentInput)} (hdir : db.Directory)
    (hverify : matchOrderPayments ⟨maxLogsPerOrder, cfg.minConfirmations⟩ (chain.source head) newId
      db orderId ownerSub = .ok (o, verified, toBlock))
    (hw : w ∈ db.windows) (hwo : w.orderId = o.id)
    (hstream : cfg.stream = ⟨o.chainId, o.tokenAddress⟩)
    (hparts : PartitionsRange w.windowFromBlock.number head.number parts)
    (hscan : List.Forall₂ (fun p matched => ∃ newId,
      matchRange cfg (chain.source head) db newId p.1 p.2 = .ok matched) parts scanned) :
    (verified.map PaymentRecord.anonymous).Perm
      ((scanned.flatten.filter (fun m => decide (m.orderId = orderId))).map
        PaymentRecord.anonymous) := by
  obtain ⟨w', head', logs, hview, hhead, -, hlogs, rfl⟩ := matchOrderPayments_eq_ok hverify
  obtain ⟨ho, rfl, -, hw', hwo'⟩ := orderView_eq_some hview
  obtain rfl : head = head' := Except.ok.inj hhead
  obtain rfl : w' = w := List.inj_on_of_nodup_map hdir.windowIds hw' hw (hwo'.trans hwo.symm)
  -- the batches: every transfer to the order, as the payment it makes
  have hbatches : ((scanned.flatten.filter (fun m => decide (m.orderId = o.id))).map
      PaymentRecord.anonymous).Perm
      (((parts.flatMap (fun p => chain.transfersIn
          ⟨cfg.stream.chainId, cfg.stream.tokenAddress, p.1, p.2, none⟩)).filter
          (fun log => decide (log.toAddress = o.receiveAddress))).map
        (fun log => matchedPaymentInput 0 log (candidateFromOrderView o w') head
          cfg.minConfirmations)) := by
    clear hparts
    induction hscan with
    | nil => exact List.Perm.refl _
    | cons hone _ ih =>
      obtain ⟨newId, hone⟩ := hone
      rw [List.flatten_cons, List.filter_append, List.map_append, List.flatMap_cons,
        List.filter_append, List.map_append]
      exact (hdir.perm_of_matchRange ho hw hwo hstream hone).append ih
  -- the verification: the transfers it asked for, which are those to the order
  have hasked := chain.transfersIn_recipient cfg.stream w'.windowFromBlock.number head.number
    o.receiveAddress
  have hanswer : logs.Perm (chain.transfersIn ⟨cfg.stream.chainId, cfg.stream.tokenAddress,
      w'.windowFromBlock.number, head.number, some o.receiveAddress⟩) := by
    rw [hstream]
    exact chain.perm_of_source hlogs
  have hverified := @anonymous_matchTransferLogs_singleton o w' cfg.stream logs hstream
    (fun log hlog => by
      have hmem := hasked ▸ hanswer.subset hlog
      obtain ⟨hchain, htoken⟩ := chain.of_mem_transfersIn (List.mem_filter.mp hmem).1
      exact ⟨hchain, htoken, of_decide_eq_true (List.mem_filter.mp hmem).2⟩)
    cfg.minConfirmations head newId
  rw [hstream] at hverified
  rw [hverified]
  refine ((hanswer.trans (List.Perm.of_eq hasked)).map _).trans ?_
  exact ((((hparts.perm_transfersIn chain cfg.stream).symm).filter _).map _).trans hbatches.symm

namespace SmallScanner

/-- The payment of the order in block 1, under a head two blocks deep. -/
def foundPayment (id : Uuid) : MatchedPaymentInput :=
  matchedPaymentInput id ⟨⟨transfer, 1, 0xa1⟩, 1, 1⟩
    (candidateFromOrderView order ⟨0xd1, 0xc1, ⟨0, 0x90⟩, 10, 20⟩) ⟨2, 0xa2⟩ 2

end SmallScanner

open SmallScanner in
/-- A payment in block 1, verified, and scanned in two batches, the later one
first. -/
theorem verify_finds_scanned_in_two_batches :
    matchOrderPayments ⟨1000, 2⟩ (deepChain.source ⟨2, 0xa2⟩) (fun _ => 0xf0)
        (initial deepChain).db 0xd1 none = .ok (order, [foundPayment 0xf0], 2)
      ∧ ([foundPayment 0xf0].map PaymentRecord.anonymous).Perm
        (([[foundPayment 0xf1], []].flatten.filter (fun m => decide (m.orderId = 0xd1))).map
          PaymentRecord.anonymous) := by
  have hverify : matchOrderPayments ⟨1000, 2⟩ (deepChain.source ⟨2, 0xa2⟩) (fun _ => 0xf0)
      (initial deepChain).db 0xd1 none = .ok (order, [foundPayment 0xf0], 2) := by
    decide +kernel
  refine ⟨hverify, verify_finds_scanned deepChain ⟨2, 0xa2⟩ (initial deepChain).db config 1000
    (fun _ => 0xf0) 0xd1 none ⟨0xd1, 0xc1, ⟨0, 0x90⟩, 10, 20⟩ [(1, 2), (0, 0)] ?_ hverify List.mem_cons_self rfl rfl ?_ ?_⟩
  · refine ⟨by decide, by decide, by decide, ?_, ?_⟩
    · intro o ho
      rw [List.mem_singleton.mp ho]
      exact ⟨_, List.mem_cons_self, rfl⟩
    · intro w hw o ho _
      rw [List.mem_singleton.mp hw, List.mem_singleton.mp ho]
      rfl
  · refine ⟨by decide, fun n => ?_⟩
    by_cases h0 : n = 0
    · subst h0
      rfl
    · by_cases h2 : n ≤ 2
      · have hn : n = 1 ∨ n = 2 := by omega
        rcases hn with rfl | rfl
        · rfl
        · rfl
      · simp [h0, h2]
  · exact List.Forall₂.cons ⟨fun _ => 0xf1, by decide +kernel⟩
      (List.Forall₂.cons ⟨fun _ => 0, by decide +kernel⟩ List.Forall₂.nil)
