import Pay3.ScannerTicks

/-!
# Scanning again after a reorganisation

A scanner goes over one chain, the chain is reorganised, the payments from the
fork on are orphaned and the cursor is taken back, and the scanner goes over the
new chain. Orphaned rows stay in the table under their key, which is the
transaction and the index of the log in its block. A transaction may come back
in another block with its logs at other indices, so a payment of the new chain
may meet the orphaned row of another of its logs.

If that log went to another order the upsert refuses to overwrite it, and the
range can not be committed. This module says that nothing else stands in the
way: the range is stored, each payment of it in exactly one row that is not
orphaned, exactly when the tables take its transfers.
-/

variable {db db' : PaymentDb}

/-- A lease taken is that of the cursor, which it is put into. -/
theorem lease_of_claim {now leaseUntil : Timestamp} {workerId : String} {stream : StreamId}
    {lease : ScanCursorLease}
    (h : claimScanRange db now workerId stream leaseUntil = .ok (some lease, db')) :
    stream.chainId ≤ i64Max ∧ ∃ c, db.cursor? stream = some c
      ∧ lease = ⟨stream, workerId, leaseUntil, c.lastScannedBlock, c.seenKvReorgEpoch⟩
      ∧ db' = db.updateCursor stream (ChainCursor.leased workerId leaseUntil) := by
  rcases claimScanRange_eq_ok h with ⟨hnone, -⟩ | ⟨c, hc, hlease, hdb⟩
  · cases hnone
  · unfold claimScanRange at h
    obtain ⟨_, hchain, -⟩ := Except.bind_eq_ok.mp h
    exact ⟨(toI64_eq_ok.mp hchain).1, c, hc, Option.some.inj hlease, hdb⟩

/-! ## The schema is kept -/

namespace PaymentDb.Schema

/-- New payments under the same orders. -/
theorem congr (h : db.Schema)
    (htargets : db'.orders.map OrderRecord.target = db.orders.map OrderRecord.target)
    (hwindows : db'.windows = db.windows) (hkeys : (db'.payments.map PaymentRecord.key).Nodup)
    (hrefs : ∀ p ∈ db'.payments, ∃ o ∈ db.orders, o.id = p.orderId ∧ o.chainId = p.chainId
      ∧ o.tokenAddress = p.tokenAddress ∧ o.receiveAddress = p.toAddress) : db'.Schema := by
  refine ⟨h.directory.congr htargets hwindows, hkeys, fun p hp => ?_⟩
  obtain ⟨o, ho, hid, hchain, htoken, hto⟩ := hrefs p hp
  obtain ⟨o', ho', heq⟩ := exists_target htargets.symm ho
  simp only [OrderRecord.target, Prod.mk.injEq] at heq
  exact ⟨o', ho', heq.1.trans hid, heq.2.2.1.trans hchain, heq.2.2.2.trans htoken,
    heq.2.1.trans hto⟩

theorem recomputed (h : db.Schema) (now : Timestamp) (orderIds : List Uuid) :
    (db.recomputed now orderIds).Schema :=
  h.congr (db.recomputed_targets now orderIds) rfl h.keys h.references

theorem updateCursor (h : db.Schema) (stream : StreamId) (f : ChainCursor → ChainCursor) :
    (db.updateCursor stream f).Schema :=
  h.congr rfl rfl h.keys h.references

/-- An update that moves no payment. -/
theorem updatePayments (h : db.Schema) (sel : PaymentRecord → Bool)
    {f : PaymentRecord → PaymentRecord} (hkey : ∀ p, (f p).key = p.key)
    (htarget : ∀ p, (f p).orderId = p.orderId ∧ (f p).chainId = p.chainId
      ∧ (f p).tokenAddress = p.tokenAddress ∧ (f p).toAddress = p.toAddress) :
    PaymentDb.Schema { db with payments := updateWhere sel f db.payments } := by
  refine h.congr rfl rfl ?_ (fun p hp => ?_)
  · rw [map_updateWhere hkey]
    exact h.keys
  · rcases mem_updateWhere.mp hp with ⟨q, hq, -, rfl⟩ | ⟨hold, -⟩
    · obtain ⟨ho, hc, ht, hto⟩ := htarget q
      rw [ho, hc, ht, hto]
      exact h.references q hq
    · exact h.references p hold

/-- Upserts refer to the orders they matched. -/
theorem upserts (h : db.Schema) {inputs : List (StreamId × MatchedPaymentInput)}
    {records : List PaymentRecord}
    (hup : upsertMatchedPayments db inputs = .ok (records, db')) : db'.Schema := by
  induction inputs generalizing db records with
  | nil =>
    obtain ⟨-, rfl⟩ := Prod.mk.inj (Except.ok.inj hup)
    exact h
  | cons input rest ih =>
    obtain ⟨record, tail, db₁, h₁, h₂, -⟩ := upsertMatchedPayments_cons_eq_ok hup
    refine ih ?_ h₂
    obtain ⟨o, w, how, rfl, hrecord, -⟩ := upsertMatchedPaymentTx_eq_ok h₁
    obtain ⟨ho, -, -, -, hto, -, -⟩ := PaymentDb.matchedOrder_eq_some how
    refine h.congr rfl rfl (nodup_map_upsertBy record h.keys) (fun p hp => ?_)
    rcases mem_of_mem_upsertBy hp with rfl | hold
    · rw [hrecord]
      exact ⟨o, ho, rfl, rfl, rfl, hto⟩
    · exact h.references p hold

theorem confirmed (h : db.Schema) {now : Timestamp} {batch : ConfirmObservedPaymentsBatch}
    {records : List PaymentRecord}
    (hconfirm : confirmObservedPayments db now batch = .ok (records, db')) : db'.Schema := by
  obtain ⟨orderIds, -, -, rfl⟩ := confirmObservedPayments_eq_ok hconfirm
  have hrows := h.updatePayments (confirmSelects batch) (f := confirmRow batch.canonicalHead)
    (fun _ => rfl) (fun _ => ⟨rfl, rfl, rfl, rfl⟩)
  exact hrows.recomputed _ _

theorem claimed (h : db.Schema) {now leaseUntil : Timestamp} {workerId : String}
    {stream : StreamId} {lease : ScanCursorLease}
    (hclaim : claimScanRange db now workerId stream leaseUntil = .ok (some lease, db')) :
    db'.Schema := by
  obtain ⟨-, c, -, -, rfl⟩ := lease_of_claim hclaim
  exact h.updateCursor _ _

/-- **A tick keeps the schema.** -/
theorem tickMove (h : db.Schema) {cfg : PaymentScannerConfig} {source : ChainSource}
    {input : TickInput} (hmove : TickMove cfg source input db db') : db'.Schema := by
  cases hmove with
  | untouched => exact h
  | claimed hclaim => exact h.claimed hclaim
  | swept hclaim hconfirm =>
    exact (h.claimed hclaim).confirmed hconfirm
  | committed hclaim _ _ hcommit =>
    obtain ⟨c, db₁, -, -, -, -, -, hup, -, rfl⟩ := commitScannedBatch_eq_ok hcommit
    exact (((h.claimed hclaim).upserts hup).recomputed _ _).updateCursor _ _

/-- **So does the handling of a reorganisation.** -/
theorem handled (h : db.Schema) {now : Timestamp} {stream : StreamId} {epoch lastReorgFrom : ℕ}
    (hreorg : handleKvReorgEpoch db now stream epoch lastReorgFrom = .ok db') : db'.Schema := by
  obtain ⟨c, -, ⟨-, rfl⟩ | ⟨-, orderIds, -, -, rfl⟩⟩ := handleKvReorgEpoch_eq_ok hreorg
  · exact h
  · have horphaned := h.updatePayments (orphanSelects stream lastReorgFrom) (f := orphanRow)
      (fun _ => rfl) (fun _ => ⟨rfl, rfl, rfl, rfl⟩)
    exact (horphaned.updateCursor _ _).recomputed _ _

end PaymentDb.Schema

/-! ## Scanning and reorganisations -/

/-- The database and the canonical chain it is scanned from. -/
structure ScanState where
  db : PaymentDb
  chain : CanonicalChain

/-- What happens between one scan and the next. -/
inductive ScanEvent
  /-- The chain grows. -/
  | grow (chain : CanonicalChain)
  | order (o : OrderRecord) (w : PaymentWindowRecord)
  | tick (input : TickInput)
  /-- The chain is reorganised from a block on, and the epoch is handled. -/
  | reorg (now : Timestamp) (epoch lastReorgFrom : ℕ) (chain : CanonicalChain)

/-- The constraints of the tables for a new order with its window. -/
def PaymentDb.admits (db : PaymentDb) (o : OrderRecord) (w : PaymentWindowRecord) : Bool :=
  db.orders.all (fun o' => decide (o'.id ≠ o.id) && decide (o'.receiveAddress ≠ o.receiveAddress)) &&
    db.windows.all (fun w' => decide (w'.orderId ≠ o.id)) &&
    decide (w.orderId = o.id) && decide (w.receiveAddress = o.receiveAddress)

/-- The two chains are the same below a block. -/
def CanonicalChain.agreesBelow (chain chain' : CanonicalChain) (n : ℕ) : Bool :=
  decide (chain.blocks.filter (fun b => decide (b.number < n))
    = chain'.blocks.filter (fun b => decide (b.number < n)))

/-- **One step.** A tick is answered from the canonical chain. -/
def ScanState.step (cfg : PaymentScannerConfig) (s : ScanState) : ScanEvent → Option ScanState
  | .grow chain => if s.chain.blocks <+: chain.blocks then some { s with chain := chain } else none
  | .order o w =>
    if s.db.admits o w then
      some { s with db := { s.db with orders := s.db.orders ++ [o], windows := s.db.windows ++ [w] } }
    else none
  | .tick input =>
    some { s with db := (tick cfg (s.chain.source s.chain.latestHead) input s.db).1 }
  | .reorg now epoch lastReorgFrom chain =>
    if s.chain.agreesBelow chain lastReorgFrom then
      (handleKvReorgEpoch s.db now cfg.stream epoch lastReorgFrom).toOption.map
        (fun db => ⟨db, chain⟩)
    else none

/-- A new order that the tables admit keeps the schema. -/
theorem PaymentDb.Schema.order (h : db.Schema) {o : OrderRecord} {w : PaymentWindowRecord}
    (hadmits : db.admits o w = true) :
    PaymentDb.Schema { db with orders := db.orders ++ [o], windows := db.windows ++ [w] } := by
  unfold PaymentDb.admits at hadmits
  simp only [Bool.and_eq_true, List.all_eq_true, decide_eq_true_eq] at hadmits
  obtain ⟨⟨⟨horders, hwindows⟩, hwo⟩, hwa⟩ := hadmits
  have hdir := h.directory
  have hnodup : ∀ {ρ κ : Type} {key : ρ → κ} {rows : List ρ} {row : ρ}, (rows.map key).Nodup →
      (∀ r ∈ rows, key r ≠ key row) → ((rows ++ [row]).map key).Nodup := by
    intro ρ κ key rows row hnd hne
    rw [List.map_append, List.map_singleton, List.nodup_append]
    refine ⟨hnd, List.nodup_singleton _, fun k hk k' hk' => ?_⟩
    obtain ⟨r, hr, rfl⟩ := List.mem_map.mp hk
    rw [List.mem_singleton.mp hk']
    exact hne r hr
  refine ⟨⟨hnodup hdir.ids (fun o' ho' => (horders o' ho').1),
    hnodup hdir.addresses (fun o' ho' => (horders o' ho').2),
    hnodup hdir.windowIds (fun w' hw' => hwo ▸ hwindows w' hw'), ?_, ?_⟩, h.keys, ?_⟩
  · intro o' ho'
    rcases List.mem_append.mp ho' with ho' | ho'
    · obtain ⟨w', hw', hid⟩ := hdir.windowed o' ho'
      exact ⟨w', List.mem_append_left _ hw', hid⟩
    · rw [List.mem_singleton.mp ho']
      exact ⟨w, List.mem_append_right _ (List.mem_singleton_self w), hwo⟩
  · intro w' hw' o' ho' hid
    rcases List.mem_append.mp hw' with hw' | hw'
    · rcases List.mem_append.mp ho' with ho' | ho'
      · exact hdir.sameAddress w' hw' o' ho' hid
      · rw [List.mem_singleton.mp ho'] at hid
        exact absurd hid.symm (hwindows w' hw')
    · rw [List.mem_singleton.mp hw'] at hid ⊢
      rcases List.mem_append.mp ho' with ho' | ho'
      · exact absurd (hid.trans hwo) (horders o' ho').1
      · rw [List.mem_singleton.mp ho']
        exact hwa
  · intro p hp
    obtain ⟨o', ho', hrefers⟩ := h.references p hp
    exact ⟨o', List.mem_append_left _ ho', hrefers⟩

/-- **Every step keeps the schema.** -/
theorem ScanState.schema_step {cfg : PaymentScannerConfig} {s t : ScanState} {e : ScanEvent}
    (hs : s.db.Schema) (h : s.step cfg e = some t) : t.db.Schema := by
  cases e with
  | grow chain =>
    obtain ⟨-, h⟩ := Option.ite_none_right_eq_some.mp h
    obtain rfl := Option.some.inj h
    exact hs
  | order o w =>
    obtain ⟨hadmits, h⟩ := Option.ite_none_right_eq_some.mp h
    obtain rfl := Option.some.inj h
    exact hs.order hadmits
  | tick input =>
    obtain rfl := Option.some.inj h
    exact hs.tickMove tickMove_of_tick
  | reorg now epoch lastReorgFrom chain =>
    obtain ⟨-, h⟩ := Option.ite_none_right_eq_some.mp h
    obtain ⟨db', hdb', rfl⟩ := Option.map_eq_some_iff.mp h
    exact hs.handled (Except.toOption_eq_some.mp hdb')

/-- So every state of a run has it. -/
theorem ScanState.schema_of_run {cfg : PaymentScannerConfig} {s t : ScanState}
    {events : List ScanEvent} (hs : s.db.Schema)
    (h : runSteps (ScanState.step cfg) s events = some t) : t.db.Schema :=
  inv_of_run (P := fun _ _ => True) (I := fun s : ScanState => s.db.Schema)
    (fun _ _ _ hI _ hst => ScanState.schema_step hI hst) hs
    (stepsMeet_of_forall (fun _ _ => trivial) s events) h

/-! ## The range scanned again -/

/-- **The range is stored**: the batch is committed, and afterwards each transfer of
the range to an order is in exactly one row that is not orphaned. -/
def StoredOnce (db : PaymentDb) (now : Timestamp) (batch : CommitScannedBatch)
    (chain : CanonicalChain) : Prop :=
  ∃ records db', commitScannedBatch db now batch = .ok (records, db')
    ∧ ∀ log ∈ chain.transfersIn ⟨batch.stream.chainId, batch.stream.tokenAddress,
        batch.expectedLastScannedBlock + 1, batch.completeToBlock, none⟩,
      db.knows batch.stream log.toAddress = true →
        db'.payments.countP (fun p => p.isLiveOf batch.stream
          && decide (p.log = log.toParsedTransferLog)) = 1

/-- A transfer asked for is a log of the chain. -/
theorem CanonicalChain.mem_getLogs_of_mem_transfersIn {chain : CanonicalChain}
    {range : TransferLogRange} {log : TransferLog} (h : log ∈ chain.transfersIn range) :
    log.toParsedTransferLog ∈ chain.getLogs range := by
  obtain ⟨b, hb, hlog⟩ := List.mem_flatMap.mp h
  obtain ⟨t, ht, rfl⟩ := List.mem_map.mp hlog
  obtain ⟨hb, hrange⟩ := List.mem_filter.mp hb
  obtain ⟨ht, hcond⟩ := List.mem_filter.mp ht
  simp only [Bool.and_eq_true, decide_eq_true_eq] at hrange hcond
  exact CanonicalChain.mem_getLogs.mpr ⟨b, hb, hrange.1, hrange.2, t, ht, hcond.1, hcond.2, rfl⟩

/-- A chain answers for ranges that are in order. -/
theorem CanonicalChain.le_of_source {chain : CanonicalChain} {head : ChainBlockRef}
    {range : TransferLogRange} {logs : List TransferLog}
    (h : (chain.source head).transferLogs range = .ok logs) : range.fromBlock ≤ range.toBlock := by
  by_contra hle
  unfold CanonicalChain.source at h
  dsimp only at h
  rw [if_neg hle] at h
  cases h

/-- The live row of a log is the only one, when keys are unique. -/
theorem countP_live_eq_one {stream : StreamId} {rows : List PaymentRecord} {p : PaymentRecord}
    (hkeys : (rows.map PaymentRecord.key).Nodup) (hp : p ∈ rows)
    (hlive : p.isLiveOf stream = true) :
    rows.countP (fun q => q.isLiveOf stream && decide (q.log = p.log)) = 1 := by
  refine countP_eq_one (List.Nodup.of_map _ hkeys) hp (by simp [hlive]) (fun q hq hcond => ?_)
  simp only [Bool.and_eq_true, decide_eq_true_eq] at hcond
  have hchain : ∀ {r : PaymentRecord}, r.isLiveOf stream = true → r.chainId = stream.chainId := by
    intro r hr
    unfold PaymentRecord.isLiveOf at hr
    simp only [Bool.and_eq_true, decide_eq_true_eq] at hr
    exact hr.1.1
  have hposition : (q.txHash, q.logIndex) = (p.txHash, p.logIndex) :=
    congrArg (fun log => log.toTransfer.position) hcond.2
  refine List.inj_on_of_nodup_map hkeys hq hp ?_
  show (q.chainId, q.txHash, q.logIndex) = (p.chainId, p.txHash, p.logIndex)
  rw [hchain hcond.1, hchain hlive, hposition]

/-- **A committed batch of a chain stores its transfers once.** -/
theorem storedOnce_of_commit {cfg : PaymentScannerConfig} {chain : CanonicalChain}
    {head : ChainBlockRef} {newId : ℕ → Uuid} {fromBlock toBlock : ℕ}
    {matched : List MatchedPaymentInput} {now : Timestamp} {batch : CommitScannedBatch}
    {records : List PaymentRecord} (hdb : db.Schema)
    (hmatch : matchRange cfg (chain.source head) db newId fromBlock toBlock = .ok matched)
    (hstream : batch.stream = cfg.stream) (hpayments : batch.matchedPayments = matched)
    (hcommit : commitScannedBatch db now batch = .ok (records, db')) {log : TransferLog}
    (hlog : log ∈ chain.transfersIn
      ⟨cfg.stream.chainId, cfg.stream.tokenAddress, fromBlock, toBlock, none⟩)
    (hknown : db.knows cfg.stream log.toAddress = true) :
    db'.payments.countP (fun p => p.isLiveOf cfg.stream
      && decide (p.log = log.toParsedTransferLog)) = 1 := by
  obtain ⟨logs, head', candidates, hlogs, hhead, hlookup, rfl⟩ := matchRange_eq_ok hmatch
  obtain rfl : head = head' := Except.ok.inj hhead
  have hperm := chain.perm_of_source hlogs
  -- what was matched are logs of the chain, each with the status its depth gives it
  have hfrom : ∀ m ∈ batch.matchedPayments, m.chainId = cfg.stream.chainId
      ∧ m.tokenAddress = cfg.stream.tokenAddress
      ∧ m.log ∈ chain.getLogs ⟨cfg.stream.chainId, cfg.stream.tokenAddress, fromBlock, toBlock, none⟩
      ∧ m.chainStatus = (chainStatus m.block head cfg.minConfirmations).1 := by
    intro m hm
    rw [hpayments] at hm
    obtain ⟨l, hl, c, -, id, rfl, hchain, htoken⟩ := mem_matchTransferLogs hm
    exact ⟨hchain, htoken, CanonicalChain.mem_getLogs_of_mem_transfersIn (hperm.subset hl), rfl⟩
  have honce : ∀ m ∈ batch.matchedPayments, ∀ m' ∈ batch.matchedPayments, m.key = m'.key →
      m.SameSighting m' := by
    intro m hm m' hm' hkey
    obtain ⟨hchain, -, hmem, hstatus⟩ := hfrom m hm
    obtain ⟨hchain', -, hmem', hstatus'⟩ := hfrom m' hm'
    have heq : m.log = m'.log :=
      CanonicalChain.eq_of_mem_getLogs hmem hmem' (congrArg Prod.snd hkey)
    have hblock : m.block = m'.block :=
      congrArg (fun l => (⟨l.blockNumber, l.blockHash⟩ : ChainBlockRef)) heq
    exact ⟨hchain.trans hchain'.symm, heq, by rw [hstatus, hstatus', hblock]⟩
  obtain ⟨c, db₁, -, -, -, -, -, hup, -, rfl⟩ := commitScannedBatch_eq_ok hcommit
  have hstored := stored_of_upserts hup hdb.keys
    (fun m hm => by rw [hstream]; exact ⟨(hfrom m hm).1, (hfrom m hm).2.1⟩) honce
  -- the transfer was matched, so it has a row
  have hmem : log ∈ logs := hperm.symm.subset hlog
  obtain ⟨hchain, htoken⟩ := chain.of_mem_transfersIn hlog
  have hlookup' := hlookup.resolve_left (List.ne_nil_of_mem hmem)
  obtain ⟨cand, hcand⟩ := hdb.directory.candidatesForTransferLog_eq hlookup'
    (mem_sortedSet.mpr (List.mem_map_of_mem hmem)) hchain htoken hknown
  obtain ⟨m, hm, hmlog⟩ := exists_matched head newId hmem hcand
  rw [← hpayments] at hm
  obtain ⟨p, hp, hsight⟩ := hstored.stored m hm
  obtain ⟨hmchain, hmtoken, -, hmstatus⟩ := hfrom m hm
  have hlive : p.isLiveOf cfg.stream = true := by
    rw [hsight.isLiveOf]
    have hnot : m.chainStatus ≠ .orphaned := by
      rw [hmstatus]
      exact chainStatus_fst.2
    unfold PaymentRecord.isLiveOf
    simp [hmchain, hmtoken, hnot]
  rw [← hsight.log.trans hmlog]
  exact countP_live_eq_one hstored.keys hp hlive

/-- **When a reorganised chain can be scanned again.** In every state reached by
scanning a chain that grows and is reorganised, with the payments orphaned and
the cursor taken back each time: the next range of the canonical chain, once
`match_range` has answered for it, is committed, with each of its payments in
exactly one row that is not orphaned, if and only if the tables take its
transfers. In particular no row with the place of
one of them, orphaned or not, may have gone to another address. -/
theorem rescan_storedOnce_iff (cfg : PaymentScannerConfig) (start : ScanState)
    (events : List ScanEvent) (now leaseUntil : Timestamp) (newId : ℕ → Uuid) (toBlock : ℕ)
    {s : ScanState} {lease : ScanCursorLease} {db₁ : PaymentDb} {logs : List TransferLog}
    {matched : List MatchedPaymentInput} (hstart : start.db.Schema)
    (hrun : runSteps (ScanState.step cfg) start events = some s)
    (hclaim : claimScanRange s.db now cfg.workerId cfg.stream leaseUntil = .ok (some lease, db₁))
    (hlogs : (s.chain.source s.chain.latestHead).transferLogs ⟨cfg.stream.chainId,
      cfg.stream.tokenAddress, lease.lastScannedBlock + 1, toBlock, none⟩ = .ok logs)
    (hmatch : matchRange cfg (s.chain.source s.chain.latestHead) db₁ newId
      (lease.lastScannedBlock + 1) toBlock = .ok matched)
    (hids : FreshIds newId logs.length db₁.payments)
    (hbigint : toBlock ≤ i64Max ∧ lease.seenKvReorgEpoch ≤ i64Max) :
    StoredOnce db₁ now (tickBatch cfg lease toBlock matched) s.chain
      ↔ db₁.Takes cfg.stream cfg.minConfirmations s.chain.latestHead logs := by
  have hcheck : CursorAsExpected db₁ (tickBatch cfg lease toBlock matched) := by
    obtain ⟨hchain, c, hcursor, rfl, rfl⟩ := lease_of_claim hclaim
    have hle := s.chain.le_of_source hlogs
    exact ⟨Nat.le_of_succ_le hle, hchain, hbigint.1, hbigint.2, _,
      PaymentDb.cursor?_updateCursor_self (ChainCursor.leased_stream _ _) hcursor, rfl, rfl, rfl⟩
  have hschema : db₁.Schema := (ScanState.schema_of_run hstart hrun).claimed hclaim
  have hiff := @PaymentDb.Schema.commit_isOk db₁ hschema cfg (s.chain.source s.chain.latestHead)
    newId now (lease.lastScannedBlock + 1) toBlock (tickBatch cfg lease toBlock matched) logs
    s.chain.latestHead matched hlogs rfl hmatch hids rfl rfl hcheck
  rw [← hiff]
  constructor
  · rintro ⟨records, db', hcommit, -⟩
    exact ⟨(records, db'), hcommit⟩
  · rintro ⟨⟨records, db'⟩, hcommit⟩
    exact ⟨records, db', hcommit, fun log hlog hknown =>
      storedOnce_of_commit hschema hmatch rfl rfl hcommit hlog hknown⟩

namespace SmallScanner

/-- Two orders, nothing scanned. -/
def twoOrdersDb : PaymentDb :=
  ⟨[order, { order with id := 0xd2, childAccountId := 0xe2, receiveAddress := 0xc2 }],
    [⟨0xd1, 0xc1, ⟨0, 0x90⟩, 10, 20⟩, ⟨0xd2, 0xc2, ⟨0, 0x90⟩, 10, 20⟩], [], [],
    [⟨1, 0x70, 0, 0, none, none⟩]⟩

/-- One transaction pays both orders, with logs 0 and 1 of its block. -/
def bothPaidChain : CanonicalChain where
  blocks := [genesis, ⟨1, 0xa1, 1, [(0x77, .success)],
    [transfer, { transfer with logIndex := 1, toAddress := 0xc2 }]⟩]
  nonempty := by simp
  numbered := by decide
  mined_once := by decide
  logged_once := by decide

/-- The same transaction after another one, with logs 1 and 2 of its block. -/
def shiftedChain : CanonicalChain where
  blocks := [genesis, ⟨1, 0xb1, 1, [(0x66, .success), (0x77, .success)],
    [{ transfer with txHash := 0x66, toAddress := 0xcc }, { transfer with logIndex := 1 },
      { transfer with logIndex := 2, toAddress := 0xc2 }]⟩]
  nonempty := by simp
  numbered := by decide
  mined_once := by decide
  logged_once := by decide

/-- New ids from a number on. -/
def idsFrom (n : ℕ) (i : ℕ) : Uuid := BitVec.ofNat 128 (n + i)

/-- A scan of the chain, and a reorganisation of block 1 that is handled. -/
def scanThenReorg (chain : CanonicalChain) : List ScanEvent :=
  [.tick ⟨0, 0, idsFrom 0xf0⟩, .reorg 0 1 1 chain]

/-- The lease the next tick takes. -/
def rescanLease : ScanCursorLease := ⟨config.stream, "scanner", seconds 30, 0, 1⟩

/-- The tables a first scan of a chain leaves. -/
def scannedDb (db : PaymentDb) (chain : CanonicalChain) : PaymentDb :=
  (tick config (chain.source chain.latestHead) ⟨0, 0, idsFrom 0xf0⟩ db).1

/-- The tables after the reorganisation of block 1. -/
def reorgedDb (db : PaymentDb) (chain : CanonicalChain) : PaymentDb :=
  ((handleKvReorgEpoch (scannedDb db chain) 0 config.stream 1 1).toOption).getD db

/-- The tables under the lease of the next tick. -/
def reclaimedDb (db : PaymentDb) (chain : CanonicalChain) : PaymentDb :=
  (reorgedDb db chain).updateCursor config.stream (ChainCursor.leased "scanner" (seconds 30))

/-- What the next tick matches in blocks 1 and 2. -/
def rematched (db : PaymentDb) (chain chain' : CanonicalChain) : List MatchedPaymentInput :=
  ((matchRange config (chain'.source chain'.latestHead) (reclaimedDb db chain) (idsFrom 0xf8) 1
    chain'.latestHead.number).toOption).getD []

theorem run_scanThenReorg {db : PaymentDb} {chain chain' : CanonicalChain}
    (hagree : chain.agreesBelow chain' 1 = true)
    (h : handleKvReorgEpoch (scannedDb db chain) 0 config.stream 1 1 = .ok (reorgedDb db chain)) :
    runSteps (ScanState.step config) ⟨db, chain⟩ (scanThenReorg chain')
      = some ⟨reorgedDb db chain, chain'⟩ := by
  refine runSteps_cons_eq_some.mpr ⟨⟨scannedDb db chain, chain⟩, rfl, ?_⟩
  refine runSteps_cons_eq_some.mpr ⟨_, Option.ite_none_right_eq_some.mpr ⟨hagree, ?_⟩, rfl⟩
  exact Option.map_eq_some_iff.mpr ⟨_, Except.toOption_eq_some.mpr h, rfl⟩

end SmallScanner

open SmallScanner in
/-- The payment of one order moves from block 1 to block 2, and is stored again. -/
theorem rescan_moved_payment : StoredOnce (reclaimedDb (initial deepChain).db deepChain) 0
    (tickBatch config rescanLease 2 (rematched (initial deepChain).db deepChain lateChain))
    lateChain := by
  have hlogs : (lateChain.source lateChain.latestHead).transferLogs ⟨1, 0x70, 1, 2, none⟩
      = .ok [⟨⟨transfer, 2, 0xb2⟩, 1, 2⟩] := by decide +kernel
  have hclaim : claimScanRange (reorgedDb (initial deepChain).db deepChain) 0 config.workerId
      config.stream (seconds 30)
      = .ok (some rescanLease, reclaimedDb (initial deepChain).db deepChain) := by decide +kernel
  refine (rescan_storedOnce_iff config ⟨(initial deepChain).db, deepChain⟩ (scanThenReorg lateChain)
    0 (seconds 30) (idsFrom 0xf8) 2 ?_ (run_scanThenReorg (by decide) (by decide +kernel))
    hclaim hlogs (by decide +kernel) ?_ (by decide)).mpr ?_
  · exact ⟨⟨by decide, by decide, by decide, by decide, by decide⟩, by decide, by decide⟩
  · refine ⟨fun i hi j hj _ => ?_, fun i hi => ?_⟩
    · rw [List.length_singleton, Nat.lt_one_iff] at hi hj
      rw [hi, hj]
    · rw [List.length_singleton, Nat.lt_one_iff] at hi
      rw [hi]
      decide +kernel
  · exact ⟨by decide, by decide, by decide, by decide, by decide +kernel, by decide,
      by decide +kernel⟩

open SmallScanner in
/-- **A shifted log stops the scanner.** One transaction pays two orders; after the
reorganisation the log of the first order has the index the log of the second one
had. The orphaned row is that of another order, and the batch is refused. -/
theorem shifted_log_rejected : ∃ matched,
    runSteps (ScanState.step config) ⟨twoOrdersDb, bothPaidChain⟩ (scanThenReorg shiftedChain)
        = some ⟨reorgedDb twoOrdersDb bothPaidChain, shiftedChain⟩
      ∧ claimScanRange (reorgedDb twoOrdersDb bothPaidChain) 0 "scanner" config.stream (seconds 30)
        = .ok (some rescanLease, reclaimedDb twoOrdersDb bothPaidChain)
      ∧ matchRange config (shiftedChain.source shiftedChain.latestHead)
          (reclaimedDb twoOrdersDb bothPaidChain) (idsFrom 0xf8) 1 1 = .ok matched
      ∧ ¬ StoredOnce (reclaimedDb twoOrdersDb bothPaidChain) 0 (tickBatch config rescanLease 1 matched)
        shiftedChain := by
  refine ⟨rematched twoOrdersDb bothPaidChain shiftedChain,
    run_scanThenReorg (by decide) (by decide +kernel), by decide +kernel, by decide +kernel, ?_⟩
  rintro ⟨records, db', h, -⟩
  have hrefused : commitScannedBatch (reclaimedDb twoOrdersDb bothPaidChain) 0
      (tickBatch config rescanLease 1 (rematched twoOrdersDb bothPaidChain shiftedChain))
      = .error (.stalePaymentMatch 0xd1 0x77 1) := by decide +kernel
  rw [hrefused] at h
  cases h
