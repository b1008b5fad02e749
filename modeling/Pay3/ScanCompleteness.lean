import Pay3.ScannerMoves

/-!
# A committed scan stores what it read

A scan reads every `Transfer` of the token in its range, and what it stores is
the part of it that pays orders. Nothing is lost on the way: the addresses of
orders are unique, so each transfer to one of them has exactly one candidate,
and each candidate is upserted. Nothing is added either, since an upsert only
writes a row for an order of the stream at the address the transfer went to.

So after a commit the payments of a block of the range are the transfers of
that block, on the chain the scan was answered from, to known orders. What an
upsert takes away is the row of the same transfer in another block.
-/

namespace PaymentRecord

/-- The event a payment was stored for. -/
def log (p : PaymentRecord) : ParsedTransferLog :=
  ⟨⟨p.tokenAddress, p.txHash, p.logIndex, p.fromAddress, p.toAddress, p.amountRaw⟩,
    p.blockNumber, p.blockHash⟩

/-- A payment of the stream that is not orphaned. -/
def isLiveOf (p : PaymentRecord) (stream : StreamId) : Bool :=
  decide (p.chainId = stream.chainId) && decide (p.tokenAddress = stream.tokenAddress) &&
    !decide (p.chainStatus = .orphaned)

/-- **Two rows for one sighting**: the same event in the same block, with the same
status. -/
structure SameSighting (p q : PaymentRecord) : Prop where
  chainId : p.chainId = q.chainId
  log : p.log = q.log
  chainStatus : p.chainStatus = q.chainStatus

namespace SameSighting

variable {p q r : PaymentRecord}

theorem trans (h : p.SameSighting q) (h' : q.SameSighting r) : p.SameSighting r :=
  ⟨h.chainId.trans h'.chainId, h.log.trans h'.log, h.chainStatus.trans h'.chainStatus⟩

theorem tokenAddress (h : p.SameSighting q) : p.tokenAddress = q.tokenAddress :=
  congrArg (fun log => log.tokenAddress) h.log

theorem blockNumber (h : p.SameSighting q) : p.blockNumber = q.blockNumber :=
  congrArg ParsedTransferLog.blockNumber h.log

theorem block (h : p.SameSighting q) : p.block = q.block :=
  congrArg (fun log => (⟨log.blockNumber, log.blockHash⟩ : ChainBlockRef)) h.log

theorem isLiveOf (h : p.SameSighting q) (stream : StreamId) :
    p.isLiveOf stream = q.isLiveOf stream := by
  unfold PaymentRecord.isLiveOf
  rw [h.chainId, h.tokenAddress, h.chainStatus]

theorem isObservedOf (h : p.SameSighting q) (stream : StreamId) :
    p.isObservedOf stream = q.isObservedOf stream := by
  unfold PaymentRecord.isObservedOf
  rw [h.chainId, h.tokenAddress, h.chainStatus]

end SameSighting

end PaymentRecord

/-! ## The orders a transfer can pay -/

/-- What names an order and says where it is paid. -/
def OrderRecord.target (o : OrderRecord) : Uuid × EvmAddress × ℕ × EvmAddress :=
  (o.id, o.receiveAddress, o.chainId, o.tokenAddress)

namespace PaymentDb

/-- **The address is one of an order of the stream.** -/
def knows (db : PaymentDb) (stream : StreamId) (address : EvmAddress) : Bool :=
  db.orders.any (fun o => decide (o.chainId = stream.chainId) &&
    decide (o.tokenAddress = stream.tokenAddress) && decide (o.receiveAddress = address))

/-- **The orders and their windows**: ids and addresses are unique, and every
order has its one window, at its own address. -/
structure Directory (db : PaymentDb) : Prop where
  ids : (db.orders.map OrderRecord.id).Nodup
  addresses : (db.orders.map OrderRecord.receiveAddress).Nodup
  windowIds : (db.windows.map PaymentWindowRecord.orderId).Nodup
  windowed : ∀ o ∈ db.orders, ∃ w ∈ db.windows, w.orderId = o.id
  sameAddress : ∀ w ∈ db.windows, ∀ o ∈ db.orders, o.id = w.orderId →
    w.receiveAddress = o.receiveAddress

/-- A recompute touches neither the name of an order nor where it is paid. -/
theorem recomputed_targets (db : PaymentDb) (now : Timestamp) (orderIds : List Uuid) :
    (db.recomputed now orderIds).orders.map OrderRecord.target
      = db.orders.map OrderRecord.target :=
  map_updateWhere (f := recomputedOrder db.payments db.overrides now) (fun _ => rfl) db.orders

variable {db db' : PaymentDb}

/-- An order of one database has a counterpart in the other. -/
theorem exists_target (htargets : db'.orders.map OrderRecord.target
    = db.orders.map OrderRecord.target) {o : OrderRecord} (ho : o ∈ db'.orders) :
    ∃ o' ∈ db.orders, o'.target = o.target := by
  have hmem : o.target ∈ db.orders.map OrderRecord.target :=
    htargets ▸ List.mem_map_of_mem ho
  exact List.mem_map.mp hmem

theorem knows_eq_true {stream : StreamId} {address : EvmAddress} :
    db.knows stream address = true ↔ ∃ o ∈ db.orders, o.chainId = stream.chainId
      ∧ o.tokenAddress = stream.tokenAddress ∧ o.receiveAddress = address := by
  unfold knows
  rw [List.any_eq_true]
  simp only [Bool.and_eq_true, decide_eq_true_eq, and_assoc]

/-- What is known depends on the orders' targets alone. -/
theorem knows_congr (htargets : db'.orders.map OrderRecord.target
    = db.orders.map OrderRecord.target) (stream : StreamId) (address : EvmAddress) :
    db'.knows stream address = db.knows stream address := by
  have hone : ∀ {d d' : PaymentDb}, d'.orders.map OrderRecord.target
      = d.orders.map OrderRecord.target → d'.knows stream address = true →
      d.knows stream address = true := by
    intro d d' ht hk
    obtain ⟨o, ho, hchain, htoken, hto⟩ := knows_eq_true.mp hk
    obtain ⟨o', ho', heq⟩ := exists_target ht ho
    simp only [OrderRecord.target, Prod.mk.injEq] at heq
    exact knows_eq_true.mpr ⟨o', ho', heq.2.2.1.trans hchain, heq.2.2.2.trans htoken,
      heq.2.1.trans hto⟩
  exact Bool.eq_iff_iff.mpr ⟨hone htargets, hone htargets.symm⟩

/-- So is the directory. -/
theorem Directory.congr (h : db.Directory) (htargets : db'.orders.map OrderRecord.target
    = db.orders.map OrderRecord.target) (hwindows : db'.windows = db.windows) : db'.Directory := by
  have hcolumn : ∀ {κ : Type} (k : Uuid × EvmAddress × ℕ × EvmAddress → κ),
      db'.orders.map (fun o => k o.target) = db.orders.map (fun o => k o.target) := by
    intro κ k
    have hmap := congrArg (List.map k) htargets
    rwa [List.map_map, List.map_map] at hmap
  refine ⟨?_, ?_, hwindows ▸ h.windowIds, fun o ho => ?_, fun w hw o ho hid => ?_⟩
  · rw [show db'.orders.map OrderRecord.id = db.orders.map OrderRecord.id from
      hcolumn (fun t => t.1)]
    exact h.ids
  · rw [show db'.orders.map OrderRecord.receiveAddress = db.orders.map OrderRecord.receiveAddress
      from hcolumn (fun t => t.2.1)]
    exact h.addresses
  · obtain ⟨o', ho', heq⟩ := exists_target htargets ho
    simp only [OrderRecord.target, Prod.mk.injEq] at heq
    obtain ⟨w, hw, hid⟩ := h.windowed o' ho'
    exact ⟨w, hwindows ▸ hw, hid.trans heq.1⟩
  · obtain ⟨o', ho', heq⟩ := exists_target htargets ho
    simp only [OrderRecord.target, Prod.mk.injEq] at heq
    exact (h.sameAddress w (hwindows ▸ hw) o' ho' (heq.1.trans hid)).trans heq.2.1

/-! ## One candidate for each transfer -/

theorem mem_windowRows {stream : StreamId} {toAddresses : List EvmAddress} {o : OrderRecord}
    {w : PaymentWindowRecord} :
    (o, w) ∈ db.windowRows stream toAddresses ↔ w ∈ db.windows ∧ o ∈ db.orders ∧ o.id = w.orderId
      ∧ o.chainId = stream.chainId ∧ o.tokenAddress = stream.tokenAddress
      ∧ w.receiveAddress ∈ toAddresses := by
  unfold windowRows
  simp only [List.mem_flatMap, List.mem_map, List.mem_filter, Bool.and_eq_true, decide_eq_true_eq,
    Prod.mk.injEq]
  constructor
  · rintro ⟨w', hw', o', ⟨ho', ⟨⟨hid, hchain⟩, htoken⟩, hto⟩, rfl, rfl⟩
    exact ⟨hw', ho', hid, hchain, htoken, hto⟩
  · rintro ⟨hw, ho, hid, hchain, htoken, hto⟩
    exact ⟨w, hw, o, ⟨ho, ⟨⟨hid, hchain⟩, htoken⟩, hto⟩, rfl, rfl⟩

/-- An order is joined with one window. -/
theorem Directory.nodup_windowRows (h : db.Directory) (stream : StreamId)
    (toAddresses : List EvmAddress) :
    ((db.windowRows stream toAddresses).map (fun row => row.1.id)).Nodup := by
  unfold windowRows
  rw [List.map_flatMap, List.nodup_flatMap]
  refine ⟨fun w _ => ?_, ?_⟩
  · rw [List.map_map]
    exact h.ids.sublist (List.filter_sublist.map OrderRecord.id)
  · refine (List.pairwise_map.mp h.windowIds).imp (fun {w w'} hne => ?_)
    -- the ids joined with a window are all the id the window names
    have hid : ∀ {v : PaymentWindowRecord} {x : Uuid}, x ∈ ((db.orders.filter (fun o =>
        decide (o.id = v.orderId) && decide (o.chainId = stream.chainId) &&
        decide (o.tokenAddress = stream.tokenAddress) &&
        decide (v.receiveAddress ∈ toAddresses))).map (fun o => (o, v))).map
          (fun row => row.1.id) → x = v.orderId := by
      intro v x hx
      obtain ⟨_, hrow, rfl⟩ := List.mem_map.mp hx
      obtain ⟨o, ho, rfl⟩ := List.mem_map.mp hrow
      have hcond := (List.mem_filter.mp ho).2
      simp only [Bool.and_eq_true, decide_eq_true_eq] at hcond
      exact hcond.1.1.1
    exact fun x hx hx' => hne ((hid hx).symm.trans (hid hx'))

/-- What a candidate is read from. -/
theorem mem_of_lookup {stream : StreamId} {toAddresses : List EvmAddress}
    {candidates : List PaymentWindowCandidate}
    (h : lookupPaymentWindowCandidates db stream toAddresses = .ok candidates)
    (hne : toAddresses ≠ []) :
    (candidates.map PaymentWindowCandidate.orderId).Perm
        ((db.windowRows stream toAddresses).map (fun row => row.1.id))
      ∧ (∀ c ∈ candidates, ∃ row ∈ db.windowRows stream toAddresses,
        paymentWindowCandidate row.1 row.2 = .ok c)
      ∧ ∀ row ∈ db.windowRows stream toAddresses, ∃ c ∈ candidates,
        paymentWindowCandidate row.1 row.2 = .ok c := by
  unfold lookupPaymentWindowCandidates at h
  rw [if_neg (by simpa using hne)] at h
  obtain ⟨_, -, h⟩ := Except.bind_eq_ok.mp h
  refine ⟨?_, fun c hc => ?_, fun row hrow => ?_⟩
  · rw [map_collectOk (k := fun row : OrderRecord × PaymentWindowRecord => row.1.id) ?_ h]
    · exact (List.perm_insertionSort _ _).map _
    · intro row c hc
      obtain ⟨paid, -, hc⟩ := Except.bind_eq_ok.mp hc
      rw [← Except.pure_eq_ok.mp hc]
  · obtain ⟨row, hrow, hc⟩ := (mem_collectOk h).mp hc
    exact ⟨row, (List.mem_insertionSort _).mp hrow, hc⟩
  · exact exists_of_collectOk h ((List.mem_insertionSort _).mpr hrow)

/-- A candidate has the columns of its order, at the address of its window. -/
theorem paymentWindowCandidate_eq_ok {o : OrderRecord} {w : PaymentWindowRecord}
    {c : PaymentWindowCandidate} (h : paymentWindowCandidate o w = .ok c) :
    c.orderId = o.id ∧ c.receiveAddress = w.receiveAddress ∧ c.chainId = o.chainId
      ∧ c.tokenAddress = o.tokenAddress := by
  obtain ⟨paid, -, h⟩ := Except.bind_eq_ok.mp h
  rw [← Except.pure_eq_ok.mp h]
  exact ⟨rfl, rfl, rfl, rfl⟩

/-- **A transfer to an order has one candidate**, whichever other addresses are
looked up with it. -/
theorem Directory.candidatesForTransferLog_eq (h : db.Directory) {stream : StreamId}
    {toAddresses : List EvmAddress} {candidates : List PaymentWindowCandidate}
    (hlookup : lookupPaymentWindowCandidates db stream toAddresses = .ok candidates)
    {log : TransferLog} (hto : log.toAddress ∈ toAddresses)
    (hchain : log.chainId = stream.chainId) (htoken : log.tokenAddress = stream.tokenAddress)
    (hknown : db.knows stream log.toAddress = true) :
    ∃ c, candidatesForTransferLog stream log candidates = [c] := by
  obtain ⟨hperm, hfrom, hread⟩ := mem_of_lookup hlookup (List.ne_nil_of_mem hto)
  have hnd : (candidates.map PaymentWindowCandidate.orderId).Nodup :=
    hperm.nodup_iff.mpr (h.nodup_windowRows stream toAddresses)
  -- the order at the address, and its candidate
  obtain ⟨o, ho, hoc, hot, hor⟩ := knows_eq_true.mp hknown
  obtain ⟨w, hw, hwo⟩ := h.windowed o ho
  have hwr : w.receiveAddress = log.toAddress := (h.sameAddress w hw o ho hwo.symm).trans hor
  obtain ⟨c, hc, hcand⟩ := hread (o, w) (mem_windowRows.mpr
    ⟨hw, ho, hwo.symm, hoc, hot, hwr ▸ hto⟩)
  obtain ⟨hcid, hcr, hcc, hct⟩ := paymentWindowCandidate_eq_ok hcand
  have hmem : c ∈ candidatesForTransferLog stream log candidates :=
    List.mem_filter.mpr ⟨hc, by simp [hcc, hoc, hct, hot, hcr, hwr, hchain, htoken]⟩
  have huniq : ∀ d ∈ candidatesForTransferLog stream log candidates, d = c := by
    intro d hd
    obtain ⟨hd, hcond⟩ := List.mem_filter.mp hd
    simp only [Bool.and_eq_true, decide_eq_true_eq] at hcond
    obtain ⟨⟨o', w'⟩, hrow, hdc⟩ := hfrom d hd
    obtain ⟨hw', ho', hid', -, -, -⟩ := mem_windowRows.mp hrow
    obtain ⟨hdid, hdr, -, -⟩ := paymentWindowCandidate_eq_ok hdc
    have haddr : o'.receiveAddress = o.receiveAddress :=
      calc o'.receiveAddress = w'.receiveAddress := (h.sameAddress w' hw' o' ho' hid').symm
        _ = d.receiveAddress := hdr.symm
        _ = log.toAddress := hcond.1.1.2
        _ = o.receiveAddress := hor.symm
    have hoo : o' = o := List.inj_on_of_nodup_map h.addresses ho' ho haddr
    exact List.inj_on_of_nodup_map hnd hd hc (hdid.trans (hoo ▸ hcid.symm))
  refine ⟨c, ?_⟩
  have hrep := List.eq_replicate_of_mem huniq
  have hle : (candidatesForTransferLog stream log candidates).length ≤ 1 := by
    have hnd' : (candidatesForTransferLog stream log candidates).Nodup :=
      (List.Nodup.of_map _ hnd).filter _
    rw [hrep] at hnd'
    exact List.nodup_replicate.mp hnd'
  have hpos : 0 < (candidatesForTransferLog stream log candidates).length :=
    List.length_pos_of_mem hmem
  rw [hrep, show (candidatesForTransferLog stream log candidates).length = 1 by omega]
  rfl

end PaymentDb

/-- A log with one candidate is matched. -/
theorem exists_matched {stream : StreamId} {minConfirmations : ℕ} {logs : List TransferLog}
    {candidates : List PaymentWindowCandidate} (head : ChainBlockRef) (newId : ℕ → Uuid)
    {log : TransferLog} (hlog : log ∈ logs) {c : PaymentWindowCandidate}
    (hc : candidatesForTransferLog stream log candidates = [c]) :
    ∃ m ∈ matchTransferLogs stream minConfirmations logs candidates head newId,
      m.log = log.toParsedTransferLog := by
  obtain ⟨i, hi, rfl⟩ := List.mem_iff_getElem.mp hlog
  refine ⟨matchedPaymentInput (newId i) logs[i] c head minConfirmations,
    List.mem_filterMap.mpr ⟨(logs[i], i), ?_, ?_⟩, rfl⟩
  · exact List.mem_zipIdx_iff_getElem?.mpr (List.getElem?_eq_getElem hi)
  · dsimp only
    rw [hc, selectCandidate_singleton]
    rfl

/-! ## What a scan is about to store -/

/-- **Every transfer to an order is among the payments about to be committed.** -/
def ScannerPc.HoldsAll (cfg : PaymentScannerConfig) (db : PaymentDb) : ScannerPc → Prop
  | .committing scan _ matched => ∀ log ∈ scan.logs cfg.stream,
      db.knows cfg.stream log.toAddress = true → ∃ m ∈ matched, m.log = log
  | _ => True

/-- A log the scan read is a transfer of its token. -/
theorem tokenAddress_of_mem_logs {scan : Scan} {stream : StreamId} {log : ParsedTransferLog}
    (h : log ∈ scan.logs stream) : log.tokenAddress = stream.tokenAddress := by
  obtain ⟨b, -, -, -, t, -, htoken, -, rfl⟩ := CanonicalChain.mem_getLogs.mp h
  exact htoken

theorem ScannerMove.holdsAll {cfg : PaymentScannerConfig} {db db' : PaymentDb}
    {chain : CanonicalChain} {input : StepInput} {pc pc' : ScannerPc}
    (h : ScannerMove cfg db chain input pc db' pc') (hdir : db.Directory)
    (hpc : pc.Faithful cfg) : pc'.HoldsAll cfg db := by
  cases h with
  | matched scan head hlookup =>
    intro log hlog hknown
    obtain ⟨completed, hmem, rfl, hchain⟩ := hpc.2 log hlog
    obtain ⟨c, hc⟩ := hdir.candidatesForTransferLog_eq hlookup
      (mem_sortedSet.mpr (List.mem_map_of_mem hmem)) hchain (tokenAddress_of_mem_logs hlog) hknown
    exact exists_matched head input.newId hmem hc
  | confirm tick cs _ hpc' =>
    rcases hpc' with rfl | ⟨result, rfl⟩
    · trivial
    · trivial
  | _ => trivial

/-- What a scan is about to commit stands for logs it read, each with the status
its depth gives it. -/
theorem sighting_of_matched {cfg : PaymentScannerConfig} {scan : Scan} {head : ChainBlockRef}
    {matched : List MatchedPaymentInput}
    (h : (ScannerPc.committing scan head matched).Faithful cfg) {m : MatchedPaymentInput}
    (hm : m ∈ matched) :
    m.chainId = cfg.stream.chainId ∧ m.log ∈ scan.logs cfg.stream
      ∧ m.chainStatus = (chainStatus m.block head cfg.minConfirmations).1 := by
  obtain ⟨logs, candidates, newId, hlogs, rfl⟩ := h
  obtain ⟨log, hlog, c, -, id, rfl, hchain, -⟩ := mem_matchTransferLogs hm
  exact ⟨hchain, (hlogs.1 log hlog).1, rfl⟩

/-- Two payments of one scan with one key are one sighting. -/
theorem sameSighting_of_key {cfg : PaymentScannerConfig} {scan : Scan} {head : ChainBlockRef}
    {matched : List MatchedPaymentInput}
    (h : (ScannerPc.committing scan head matched).Faithful cfg) {m m' : MatchedPaymentInput}
    (hm : m ∈ matched) (hm' : m' ∈ matched) (hkey : m.key = m'.key) : m.SameSighting m' := by
  obtain ⟨hchain, hlog, hstatus⟩ := sighting_of_matched h hm
  obtain ⟨hchain', hlog', hstatus'⟩ := sighting_of_matched h hm'
  have heq : m.log = m'.log :=
    CanonicalChain.eq_of_mem_getLogs hlog hlog' (congrArg Prod.snd hkey)
  have hblock : m.block = m'.block :=
    congrArg (fun log => (⟨log.blockNumber, log.blockHash⟩ : ChainBlockRef)) heq
  exact ⟨hchain.trans hchain'.symm, heq, by rw [hstatus, hstatus', hblock]⟩

/-! ## What is stored -/

/-- **The rows one upsert leaves**: the one it writes, which stands for its input,
and those with another key. -/
theorem rows_of_upsert {db db' : PaymentDb} {stream : StreamId} {m : MatchedPaymentInput}
    {record : PaymentRecord} (h : upsertMatchedPaymentTx db stream m = .ok (record, db'))
    (hkeys : (db.payments.map PaymentRecord.key).Nodup) (hchain : m.chainId = stream.chainId)
    (htoken : m.tokenAddress = stream.tokenAddress) :
    record.SameSighting m ∧ record.key = m.key ∧ db.knows stream record.toAddress = true
      ∧ (db'.payments.map PaymentRecord.key).Nodup
      ∧ ∀ p, p ∈ db'.payments ↔ p = record ∨ (p ∈ db.payments ∧ p.key ≠ m.key) := by
  obtain ⟨o, w, how, rfl, hrecord, -⟩ := upsertMatchedPaymentTx_eq_ok h
  obtain ⟨ho, -, hoc, hot, hor, -, -⟩ := PaymentDb.matchedOrder_eq_some how
  have hsight : record.SameSighting m := by
    rw [hrecord]
    exact ⟨hoc.trans hchain.symm, congrArg
      (fun a => (⟨⟨a, m.txHash, m.logIndex, m.fromAddress, m.toAddress, m.amountRaw⟩,
        m.blockNumber, m.blockHash⟩ : ParsedTransferLog)) (hot.trans htoken.symm), rfl⟩
  have hkey : record.key = m.key := by
    rw [hrecord]
    exact congrArg (fun a => (a, m.txHash, m.logIndex)) (hoc.trans hchain.symm)
  have hto : record.toAddress = m.toAddress := by
    rw [hrecord]
    rfl
  refine ⟨hsight, hkey, PaymentDb.knows_eq_true.mpr ⟨o, ho, hoc, hot, hor.trans hto.symm⟩,
    nodup_map_upsertBy record hkeys, fun p => ?_⟩
  rw [← hkey]
  exact mem_upsertBy hkeys

/-- **The rows a sequence of upserts leaves.** -/
structure Stored (stream : StreamId) (matched : List MatchedPaymentInput) (db db' : PaymentDb) :
    Prop where
  keys : (db'.payments.map PaymentRecord.key).Nodup
  /-- A row stands for an input, or was there under another key than theirs. -/
  source : ∀ p ∈ db'.payments, (p ∈ db.payments ∧ ∀ m ∈ matched, m.key ≠ p.key)
    ∨ (db.knows stream p.toAddress = true ∧ ∃ m ∈ matched, p.SameSighting m)
  kept : ∀ p ∈ db.payments, (∀ m ∈ matched, m.key ≠ p.key) → p ∈ db'.payments
  stored : ∀ m ∈ matched, ∃ p ∈ db'.payments, p.SameSighting m

theorem stored_of_upserts {stream : StreamId} {matched : List MatchedPaymentInput}
    {db db' : PaymentDb} {records : List PaymentRecord}
    (h : upsertMatchedPayments db (matched.map (fun m => (stream, m))) = .ok (records, db'))
    (hkeys : (db.payments.map PaymentRecord.key).Nodup)
    (hstream : ∀ m ∈ matched, m.chainId = stream.chainId ∧ m.tokenAddress = stream.tokenAddress)
    (honce : ∀ m ∈ matched, ∀ m' ∈ matched, m.key = m'.key → m.SameSighting m') :
    Stored stream matched db db' := by
  induction matched generalizing db records with
  | nil =>
    obtain ⟨-, rfl⟩ := Prod.mk.inj (Except.ok.inj h)
    exact ⟨hkeys, fun p hp => Or.inl ⟨hp, fun m hm => absurd hm List.not_mem_nil⟩,
      fun p hp _ => hp, fun m hm => absurd hm List.not_mem_nil⟩
  | cons m rest ih =>
    rw [List.map_cons] at h
    obtain ⟨record, tail, db₁, h₁, h₂, -⟩ := upsertMatchedPayments_cons_eq_ok h
    obtain ⟨hchain, htoken⟩ := hstream m List.mem_cons_self
    obtain ⟨hsight, hkey, hknown, hkeys₁, hmem⟩ := rows_of_upsert h₁ hkeys hchain htoken
    have hrest := ih h₂ hkeys₁ (fun m' hm' => hstream m' (List.mem_cons_of_mem m hm'))
      (fun a ha b hb => honce a (List.mem_cons_of_mem m ha) b (List.mem_cons_of_mem m hb))
    have hknows : ∀ a, db₁.knows stream a = db.knows stream a := by
      obtain ⟨_, _, _, hdb, -⟩ := upsertMatchedPaymentTx_eq_ok h₁
      intro a
      rw [hdb]
      rfl
    refine ⟨hrest.keys, fun p hp => ?_, fun p hp hother => ?_, fun m' hm' => ?_⟩
    · rcases hrest.source p hp with ⟨hp₁, hother⟩ | ⟨hk, m', hm', hs⟩
      · rcases (hmem p).mp hp₁ with rfl | ⟨hold, hne⟩
        · exact Or.inr ⟨hknown, m, List.mem_cons_self, hsight⟩
        · refine Or.inl ⟨hold, fun m' hm' => ?_⟩
          rcases List.mem_cons.mp hm' with rfl | hm'
          · exact Ne.symm hne
          · exact hother m' hm'
      · exact Or.inr ⟨hknows _ ▸ hk, m', List.mem_cons_of_mem m hm', hs⟩
    · refine hrest.kept p ((hmem p).mpr (Or.inr ⟨hp, ?_⟩))
        (fun m' hm' => hother m' (List.mem_cons_of_mem m hm'))
      exact Ne.symm (hother m List.mem_cons_self)
    · rcases List.mem_cons.mp hm' with rfl | hm'
      -- the row of the first input survives, or a later input rewrote it
      · by_cases hlater : ∃ m'' ∈ rest, m''.key = m'.key
        · obtain ⟨m'', hm'', hk⟩ := hlater
          obtain ⟨p, hp, hs⟩ := hrest.stored m'' hm''
          exact ⟨p, hp, hs.trans (honce m'' (List.mem_cons_of_mem m' hm'') m' List.mem_cons_self hk)⟩
        · refine ⟨record, hrest.kept record ((hmem record).mpr (Or.inl rfl)) ?_, hsight⟩
          intro m'' hm'' hk
          exact hlater ⟨m'', hm'', hk.trans hkey⟩
      · exact hrest.stored m' hm'

/-- **A committed scan has stored what it held**, and changed no order's target
and no window. -/
theorem stored_of_commit {cfg : PaymentScannerConfig} {db db' : PaymentDb} {now : Timestamp}
    {scan : Scan} {head : ChainBlockRef} {matched : List MatchedPaymentInput}
    {records : List PaymentRecord}
    (h : commitScannedBatch db now (scan.batch cfg matched) = .ok (records, db'))
    (hfaithful : (ScannerPc.committing scan head matched).Faithful cfg)
    (hkeys : (db.payments.map PaymentRecord.key).Nodup) :
    Stored cfg.stream matched db db'
      ∧ db'.orders.map OrderRecord.target = db.orders.map OrderRecord.target
      ∧ db'.windows = db.windows := by
  obtain ⟨c, db₁, -, -, -, -, -, hup, -, rfl⟩ := commitScannedBatch_eq_ok h
  have hstored := stored_of_upserts hup hkeys
    (fun m hm => ⟨(sighting_of_matched hfaithful hm).1,
      tokenAddress_of_mem_logs (sighting_of_matched hfaithful hm).2.1⟩)
    (fun m hm m' hm' => sameSighting_of_key hfaithful hm hm')
  have hframe := upsertMatchedPayments_frame hup
  refine ⟨⟨hstored.keys, hstored.source, hstored.kept, hstored.stored⟩, ?_, ?_⟩
  · rw [PaymentDb.updateCursor_orders, PaymentDb.recomputed_targets, hframe]
  · rw [PaymentDb.updateCursor_windows, PaymentDb.recomputed_windows, hframe]

/-! ## The payments of a block -/

/-- **What a block owes to known orders**: its transfers of the token to them. -/
def PaymentDb.due (db : PaymentDb) (stream : StreamId) (chain : CanonicalChain) (n : ℕ) :
    List ParsedTransferLog :=
  (chain.getLogs ⟨stream.chainId, stream.tokenAddress, n, n, none⟩).filter
    (fun log => db.knows stream log.toAddress)

theorem PaymentDb.mem_due {db : PaymentDb} {stream : StreamId} {chain : CanonicalChain} {n : ℕ}
    {log : ParsedTransferLog} :
    log ∈ db.due stream chain n ↔ ∃ b ∈ chain.blocks, b.number = n ∧ ∃ t ∈ b.transfers,
      t.tokenAddress = stream.tokenAddress ∧ db.knows stream t.toAddress = true
        ∧ log = ⟨t, b.number, b.hash⟩ := by
  unfold due
  rw [List.mem_filter, CanonicalChain.mem_getLogs]
  constructor
  · rintro ⟨⟨b, hb, hlo, hhi, t, ht, htoken, -, rfl⟩, hknown⟩
    exact ⟨b, hb, Nat.le_antisymm hhi hlo, t, ht, htoken, hknown, rfl⟩
  · rintro ⟨b, hb, rfl, t, ht, htoken, hknown, rfl⟩
    exact ⟨⟨b, hb, Nat.le_refl _, Nat.le_refl _, t, ht, htoken, rfl, rfl⟩, hknown⟩

theorem PaymentDb.due_congr {db db' : PaymentDb} (htargets : db'.orders.map OrderRecord.target
    = db.orders.map OrderRecord.target) (stream : StreamId) (chain : CanonicalChain) (n : ℕ) :
    db'.due stream chain n = db.due stream chain n := by
  unfold due
  simp only [PaymentDb.knows_congr htargets]

/-- **The rows agree with a block**: the payments of the stream that are in the
block and not orphaned are exactly the transfers it owes. -/
def AgreesAt (stream : StreamId) (rows : List PaymentRecord) (due : List ParsedTransferLog)
    (n : ℕ) : Prop :=
  (∀ log ∈ due, ∃ p ∈ rows, p.isLiveOf stream = true ∧ p.log = log)
    ∧ ∀ p ∈ rows, p.isLiveOf stream = true → p.blockNumber = n → p.log ∈ due

instance (stream : StreamId) (rows : List PaymentRecord) (due : List ParsedTransferLog) (n : ℕ) :
    Decidable (AgreesAt stream rows due n) :=
  inferInstanceAs (Decidable ((∀ log ∈ due, ∃ p ∈ rows, _) ∧ ∀ p ∈ rows, _))

/-- What a scan of several blocks read is what each of them logs. -/
theorem mem_logs_of_mem_due {db : PaymentDb} {scan : Scan} {stream : StreamId} {n : ℕ}
    (hlo : scan.lease.lastScannedBlock < n) (hhi : n ≤ scan.toBlock) {log : ParsedTransferLog}
    (h : log ∈ db.due stream scan.source n) : log ∈ scan.logs stream := by
  obtain ⟨b, hb, rfl, t, ht, htoken, -, rfl⟩ := PaymentDb.mem_due.mp h
  exact CanonicalChain.mem_getLogs.mpr ⟨b, hb, hlo, hhi, t, ht, htoken, rfl, rfl⟩

/-- **A committed scan agrees with every block it covered**, on the chain it was
answered from. -/
theorem agreesAt_of_commit {cfg : PaymentScannerConfig} {db db' : PaymentDb} {now : Timestamp}
    {scan : Scan} {head : ChainBlockRef} {matched : List MatchedPaymentInput}
    {records : List PaymentRecord}
    (h : commitScannedBatch db now (scan.batch cfg matched) = .ok (records, db'))
    (hfaithful : (ScannerPc.committing scan head matched).Faithful cfg)
    (hall : (ScannerPc.committing scan head matched).HoldsAll cfg db)
    (hkeys : (db.payments.map PaymentRecord.key).Nodup) {n : ℕ}
    (hlo : scan.lease.lastScannedBlock < n) (hhi : n ≤ scan.toBlock)
    (hunscanned : ∀ p ∈ db.payments, p.isLiveOf cfg.stream = true → p.blockNumber ≠ n) :
    AgreesAt cfg.stream db'.payments (db.due cfg.stream scan.source n) n := by
  obtain ⟨hstored, -, -⟩ := stored_of_commit h hfaithful hkeys
  constructor
  · intro log hlog
    obtain ⟨b, hb, hbn, t, ht, htoken, hknown, rfl⟩ := PaymentDb.mem_due.mp hlog
    obtain ⟨m, hm, hmlog⟩ := hall _ (mem_logs_of_mem_due hlo hhi hlog) hknown
    obtain ⟨p, hp, hsight⟩ := hstored.stored m hm
    refine ⟨p, hp, ?_, hsight.log.trans hmlog⟩
    obtain ⟨hchain, hmem, hstatus⟩ := sighting_of_matched hfaithful hm
    rw [hsight.isLiveOf]
    unfold PaymentRecord.isLiveOf
    have hnot : m.chainStatus ≠ .orphaned := by
      rw [hstatus]
      exact chainStatus_fst.2
    have hmt : m.tokenAddress = cfg.stream.tokenAddress := tokenAddress_of_mem_logs hmem
    simp [hchain, hmt, hnot]
  · intro p hp hlive hn
    rcases hstored.source p hp with ⟨hold, -⟩ | ⟨hknown, m, hm, hsight⟩
    · exact absurd hn (hunscanned p hold hlive)
    · have hmem := (sighting_of_matched hfaithful hm).2.1
      rw [← hsight.log] at hmem
      obtain ⟨b, hb, -, -, t, ht, htoken, -, heq⟩ := CanonicalChain.mem_getLogs.mp hmem
      have hbn : b.number = n := (congrArg ParsedTransferLog.blockNumber heq).symm.trans hn
      have hto : t.toAddress = p.toAddress := (congrArg (fun log => log.toAddress) heq).symm
      exact PaymentDb.mem_due.mpr ⟨b, hb, hbn, t, ht, htoken, hto ▸ hknown, heq⟩
