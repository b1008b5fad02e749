import Pay3.OrdersReflectPayments
import Pay3.Rescans

/-!
# Recordings under different heads

A payment is recorded many times: by the scan that first sees it, by every
verification of its order, and by the sweep that confirms it. Each recording
counts the confirmations under the head it was given, and heads come from
providers of which some lag behind. The sweep keeps the larger of two counts.
The upsert does not: it takes count and status from its input, whatever the row
held.

So a recording under a head below the one the row was counted under takes back a
confirmation, and with it what the order was paid. It is the only way: in a run
where no recording is behind the rows it writes to, counts and statuses only go
up, and so do the amounts of the orders.
-/

/-! ## The system -/

/-- What is fixed: the confirmations each token asks for, and the transfer at each
place of a chain that is not reorganised. -/
structure Recording where
  minConfirmations : StreamId → ℕ
  logAt : ℕ × TxHash × ℕ → TransferLog

/-- The place of a transfer. -/
def TransferLog.key (log : TransferLog) : ℕ × TxHash × ℕ := (log.chainId, log.position)

/-- **What is done to payments while the chain only grows.** A scan and a
verification come with the transfers they were answered, the candidates they
looked up and the head they read; a sweep with the payments it checked. -/
inductive RecordingEvent
  | order (o : OrderRecord) (w : PaymentWindowRecord)
  | claim (now : Timestamp) (workerId : String) (stream : StreamId) (leaseUntil : Timestamp)
  | scan (now : Timestamp) (batch : CommitScannedBatch) (logs : List TransferLog)
      (candidates : List PaymentWindowCandidate) (head : ChainBlockRef) (newId : ℕ → Uuid)
  | verify (now : Timestamp) (orderId : Uuid) (stream : StreamId) (logs : List TransferLog)
      (candidates : List PaymentWindowCandidate) (head : ChainBlockRef) (newId : ℕ → Uuid)
  | sweep (now : Timestamp) (stream : StreamId) (candidates : List PaymentConfirmationCandidate)
      (head : ChainBlockRef)
  | expire (databaseNow now : Timestamp) (limit : ℕ)

/-- A transaction that fails leaves the database as it was. -/
def PaymentDb.after {α : Type} (db : PaymentDb) (tx : Except RepositoryError (α × PaymentDb)) :
    PaymentDb :=
  match tx with
  | .ok (_, db') => db'
  | .error _ => db

/-- The batch of a scan, with what was matched under the head. -/
def Recording.scanned (ctx : Recording) (batch : CommitScannedBatch) (logs : List TransferLog)
    (candidates : List PaymentWindowCandidate) (head : ChainBlockRef) (newId : ℕ → Uuid) :
    CommitScannedBatch :=
  { batch with
    matchedPayments := matchTransferLogs batch.stream (ctx.minConfirmations batch.stream) logs
      candidates head newId }

/-- The payments a sweep confirms: of those it checked, the ones deep enough. -/
def Recording.swept (ctx : Recording) (stream : StreamId)
    (candidates : List PaymentConfirmationCandidate) (head : ChainBlockRef) :
    ConfirmObservedPaymentsBatch :=
  ⟨stream, (candidates.filter (fun c =>
    c.block.hasConfirmations head (ctx.minConfirmations stream))).map
      PaymentConfirmationCandidate.paymentId, head⟩

/-- The node answers with transfers of the chain. -/
def Recording.answers (ctx : Recording) (logs : List TransferLog) : Bool :=
  logs.all (fun log => decide (ctx.logAt log.key = log))

/-- The candidates of a sweep are stored with the blocks it read. -/
def PaymentDb.holds (db : PaymentDb) (candidates : List PaymentConfirmationCandidate) : Bool :=
  candidates.all (fun c => db.payments.all (fun p =>
    !decide (p.id = c.paymentId) || decide (p.block = c.block)))

/-- **One step.** -/
def Recording.step (ctx : Recording) (db : PaymentDb) : RecordingEvent → Option PaymentDb
  | .order o w =>
    if db.admits o w && decide (o.paidAmountRaw = 0) &&
        db.overrides.all (fun ov => decide (ov.orderId ≠ o.id)) then
      some { db with orders := db.orders ++ [o], windows := db.windows ++ [w] }
    else none
  | .claim now workerId stream leaseUntil =>
    some (db.after (claimScanRange db now workerId stream leaseUntil))
  | .scan now batch logs candidates head newId =>
    if ctx.answers logs then
      some (db.after (commitScannedBatch db now (ctx.scanned batch logs candidates head newId)))
    else none
  | .verify now orderId stream logs candidates head newId =>
    if ctx.answers logs then
      some (db.after (recordVerifiedPayments db now orderId
        (matchTransferLogs stream (ctx.minConfirmations stream) logs candidates head newId)))
    else none
  | .sweep now stream candidates head =>
    if db.holds candidates then
      some (db.after (confirmObservedPayments db now (ctx.swept stream candidates head)))
    else none
  | .expire databaseNow now limit =>
    some (db.after (recomputeExpiredOpenOrders db databaseNow now limit))

/-- **The head is not behind the payment**: it is at least the one the payment was
last counted under. -/
def PaymentRecord.CountedBy (p : PaymentRecord) (head : ChainBlockRef) : Prop :=
  p.confirmations = 0 ∨ p.blockNumber + p.confirmations ≤ head.number + 1

instance (p : PaymentRecord) (head : ChainBlockRef) : Decidable (p.CountedBy head) :=
  inferInstanceAs (Decidable (_ ∨ _))

/-- No row that stands for one of the transfers was counted under a higher head. -/
def PaymentDb.NotBehind (db : PaymentDb) (logs : List TransferLog) (head : ChainBlockRef) : Prop :=
  ∀ log ∈ logs, ∀ p ∈ db.payments, p.key = log.key → p.chainStatus ≠ .orphaned → p.CountedBy head

instance (db : PaymentDb) (logs : List TransferLog) (head : ChainBlockRef) :
    Decidable (db.NotBehind logs head) :=
  inferInstanceAs (Decidable (∀ log ∈ logs, ∀ p ∈ db.payments, _))

/-- **A recording is not behind the rows it writes to.** -/
def RecordingEvent.UpToDate (db : PaymentDb) : RecordingEvent → Prop
  | .scan _ _ logs _ head _ => db.NotBehind logs head
  | .verify _ _ _ logs _ head _ => db.NotBehind logs head
  | _ => True

instance (db : PaymentDb) (e : RecordingEvent) : Decidable (e.UpToDate db) :=
  match e with
  | .scan _ _ logs _ head _ => inferInstanceAs (Decidable (db.NotBehind logs head))
  | .verify _ _ _ logs _ head _ => inferInstanceAs (Decidable (db.NotBehind logs head))
  | .order _ _ => isTrue trivial
  | .claim _ _ _ _ => isTrue trivial
  | .sweep _ _ _ _ => isTrue trivial
  | .expire _ _ _ => isTrue trivial

/-! ## What is kept -/

/-- **A later row for the same log**: not orphaned, confirmed if the earlier one
was, and with no fewer confirmations. -/
structure PaymentRecord.KeptBy (p p' : PaymentRecord) : Prop where
  key : p'.key = p.key
  log : p'.log = p.log
  live : p'.chainStatus ≠ .orphaned
  confirmed : p.chainStatus = .confirmed → p'.chainStatus = .confirmed
  confirmations : p.confirmations ≤ p'.confirmations

theorem PaymentRecord.KeptBy.refl {p : PaymentRecord} (h : p.chainStatus ≠ .orphaned) :
    p.KeptBy p :=
  ⟨rfl, rfl, h, fun hc => hc, Nat.le_refl _⟩

theorem PaymentRecord.KeptBy.trans {p q r : PaymentRecord} (h : p.KeptBy q) (h' : q.KeptBy r) :
    p.KeptBy r :=
  ⟨h'.key.trans h.key, h'.log.trans h.log, h'.live, fun hp => h'.confirmed (h.confirmed hp),
    h.confirmations.trans h'.confirmations⟩

/-- Every row that is not orphaned is kept. -/
def RowsKept (rows rows' : List PaymentRecord) : Prop :=
  ∀ p ∈ rows, p.chainStatus ≠ .orphaned → ∃ p' ∈ rows', p.KeptBy p'

theorem RowsKept.refl (rows : List PaymentRecord) : RowsKept rows rows :=
  fun p hp hlive => ⟨p, hp, PaymentRecord.KeptBy.refl hlive⟩

theorem RowsKept.trans {rows rows' rows'' : List PaymentRecord} (h : RowsKept rows rows')
    (h' : RowsKept rows' rows'') : RowsKept rows rows'' := by
  intro p hp hlive
  obtain ⟨p', hp', hkept⟩ := h p hp hlive
  obtain ⟨p'', hp'', hkept'⟩ := h' p' hp' hkept.live
  exact ⟨p'', hp'', hkept.trans hkept'⟩

/-- **Recordings take nothing back**: rows are kept, and no order is paid less. -/
structure NothingTakenBack (db db' : PaymentDb) : Prop where
  rows : RowsKept db.payments db'.payments
  paid : ∀ o ∈ db.orders, ∃ o' ∈ db'.orders, o'.id = o.id ∧ o.paidAmountRaw ≤ o'.paidAmountRaw

/-! ## The invariant -/

/-- **The rows are those of the chain**: a row that is not orphaned holds the
transfer at its place, a row came when the window of its order says, and a row
that is confirmed was counted as often as its token asks for. -/
structure Recording.RowsTrue (ctx : Recording) (db : PaymentDb) : Prop where
  schema : db.Schema
  log : ∀ p ∈ db.payments, p.chainStatus ≠ .orphaned →
    p.log = (ctx.logAt p.key).toParsedTransferLog ∧ p.blockTime = (ctx.logAt p.key).blockTimestamp
  timed : ∀ p ∈ db.payments, ∀ w ∈ db.windows, w.orderId = p.orderId →
    p.matchStatus = w.matchStatus p.blockNumber p.blockTime
  deep : ∀ p ∈ db.payments, p.chainStatus = .confirmed →
    ctx.minConfirmations ⟨p.chainId, p.tokenAddress⟩ ≤ p.confirmations
      ∨ ctx.minConfirmations ⟨p.chainId, p.tokenAddress⟩ = 0

/-- Orders are paid what their payments and overrides come to. -/
def PaymentDb.Synced (db : PaymentDb) : Prop :=
  ∀ o ∈ db.orders, o.paidAmountRaw
    = confirmedOnTimeTotal db.payments o.id + acceptedProblemPayment db.overrides o.id

variable {ctx : Recording} {db db' : PaymentDb} {stream : StreamId} {head : ChainBlockRef}

/-- **A payment matched under a head**, of a transfer of the chain. -/
structure Recording.Sighted (ctx : Recording) (stream : StreamId) (head : ChainBlockRef)
    (m : MatchedPaymentInput) : Prop where
  chainId : m.chainId = stream.chainId
  tokenAddress : m.tokenAddress = stream.tokenAddress
  log : m.log = (ctx.logAt m.key).toParsedTransferLog
  blockTime : m.blockTime = (ctx.logAt m.key).blockTimestamp
  status : (m.chainStatus, m.confirmations)
    = chainStatus m.block head (ctx.minConfirmations stream)

/-- What the matcher makes of transfers of the chain. -/
theorem Recording.sighted_of_matched {logs : List TransferLog}
    {candidates : List PaymentWindowCandidate} {newId : ℕ → Uuid} {m : MatchedPaymentInput}
    (hanswers : ctx.answers logs = true)
    (hm : m ∈ matchTransferLogs stream (ctx.minConfirmations stream) logs candidates head newId) :
    ctx.Sighted stream head m ∧ ∃ log ∈ logs, m.key = log.key := by
  obtain ⟨log, hlog, c, -, id, rfl, hchain, htoken⟩ := mem_matchTransferLogs hm
  have htrue : ctx.logAt log.key = log :=
    of_decide_eq_true (List.all_eq_true.mp hanswers log hlog)
  refine ⟨⟨hchain, htoken, ?_, ?_, rfl⟩, log, hlog, rfl⟩
  · exact congrArg TransferLog.toParsedTransferLog htrue.symm
  · exact congrArg TransferLog.blockTimestamp htrue.symm

/-- Two sightings of one place under one head count the same. -/
theorem Recording.Sighted.confirmations_eq {m m' : MatchedPaymentInput}
    (h : ctx.Sighted stream head m) (h' : ctx.Sighted stream head m') (hkey : m.key = m'.key) :
    m.confirmations = m'.confirmations := by
  have hlog : m.log = m'.log := by rw [h.log, h'.log, hkey]
  have hblock : m.block = m'.block :=
    congrArg (fun l => (⟨l.blockNumber, l.blockHash⟩ : ChainBlockRef)) hlog
  have hstatus := h.status
  rw [hblock, ← h'.status] at hstatus
  exact congrArg Prod.snd hstatus

/-- A head that is not behind a row counts its block at least as often. -/
theorem le_chainStatus_of_countedBy {p : PaymentRecord} (h : p.CountedBy head)
    {block : ChainBlockRef} (hblock : block.number = p.blockNumber) (minConfirmations : ℕ) :
    p.confirmations ≤ (chainStatus block head minConfirmations).2 := by
  show p.confirmations ≤ (block.confirmationsAgainst head).getD 0
  unfold ChainBlockRef.confirmationsAgainst
  rw [hblock]
  rcases h with h | h
  · omega
  · split
    · rw [Option.getD_none]
      omega
    · rw [Option.getD_some]
      omega

/-- What is counted often enough is confirmed. -/
theorem Recording.Sighted.confirmed_of_le {m : MatchedPaymentInput}
    (h : ctx.Sighted stream head m) : m.chainStatus = .confirmed
      ↔ (ctx.minConfirmations stream ≤ m.confirmations ∨ ctx.minConfirmations stream = 0) := by
  have hfst := congrArg Prod.fst h.status
  have hsnd := congrArg Prod.snd h.status
  dsimp only at hfst hsnd
  rw [hfst, hsnd]
  unfold chainStatus
  dsimp only
  split
  · rename_i hc
    exact ⟨fun _ => hc.symm, fun _ => rfl⟩
  · rename_i hc
    exact ⟨fun hp => (by cases hp), fun hp => absurd hp.symm hc⟩

theorem Recording.Sighted.live {m : MatchedPaymentInput} (h : ctx.Sighted stream head m) :
    m.chainStatus ≠ .orphaned := by
  rw [show m.chainStatus = _ from congrArg Prod.fst h.status]
  exact chainStatus_fst.2

/-! ## One upsert -/

/-- A total grows when the row written adds no less than the row it replaces. -/
theorem totalWhere_le_upsertBy {q : PaymentRecord → Bool} {record : PaymentRecord}
    {rows : List PaymentRecord} {orderId : Uuid}
    (hold : ∀ old ∈ rows, old.key = record.key → old.share q orderId ≤ record.share q orderId) :
    totalWhere q rows orderId ≤ totalWhere q (upsertBy PaymentRecord.key record rows) orderId := by
  induction rows with
  | nil => exact Nat.zero_le _
  | cons p rows ih =>
    unfold upsertBy
    by_cases hk : p.key = record.key
    · rw [if_pos hk, totalWhere_cons, totalWhere_cons]
      exact Nat.add_le_add_right (hold p List.mem_cons_self hk) _
    · rw [if_neg hk, totalWhere_cons, totalWhere_cons]
      exact Nat.add_le_add_left (ih (fun old ho => hold old (List.mem_cons_of_mem p ho))) _

/-- A row that is kept, for its order and as it came, adds what it added. -/
theorem PaymentRecord.KeptBy.share_le {p p' : PaymentRecord} (h : p.KeptBy p')
    (horder : p'.orderId = p.orderId) (hmatch : p'.matchStatus = p.matchStatus) (id : Uuid) :
    p.share isConfirmedOnTime id ≤ p'.share isConfirmedOnTime id := by
  have hamount : p'.amountRaw = p.amountRaw := congrArg (fun l => l.amountRaw) h.log
  unfold PaymentRecord.share
  by_cases hcounts : p.orderId = id ∧ p.isConfirmedOnTime = true
  · have honTime := hcounts.2
    unfold PaymentRecord.isConfirmedOnTime at honTime
    simp only [Bool.and_eq_true, decide_eq_true_eq] at honTime
    have hcounts' : p'.orderId = id ∧ p'.isConfirmedOnTime = true := by
      refine ⟨horder.trans hcounts.1, ?_⟩
      unfold PaymentRecord.isConfirmedOnTime
      rw [hmatch, honTime.1, h.confirmed honTime.2]
      rfl
    rw [if_pos hcounts, if_pos hcounts', hamount]
  · rw [if_neg hcounts]
    exact Nat.zero_le _

/-- An orphaned row adds nothing. -/
theorem PaymentRecord.share_of_orphaned {p : PaymentRecord} (h : p.chainStatus = .orphaned)
    (id : Uuid) : p.share isConfirmedOnTime id = 0 := by
  unfold PaymentRecord.share PaymentRecord.isConfirmedOnTime
  rw [h]
  simp

/-- **A sighting that is not behind keeps the row it replaces.** -/
theorem Recording.RowsTrue.keptBy (h : ctx.RowsTrue db) {m : MatchedPaymentInput}
    (hm : ctx.Sighted stream head m) {p : PaymentRecord} (hp : p ∈ db.payments)
    (hkey : p.key = m.key) (hlive : p.chainStatus ≠ .orphaned)
    (hle : p.confirmations ≤ m.confirmations) : p.KeptBy m := by
  have hlog : m.log = p.log := by rw [hm.log, (h.log p hp hlive).1, hkey]
  refine ⟨hkey.symm, hlog, hm.live, fun hc => ?_, hle⟩
  have hstream : (⟨p.chainId, p.tokenAddress⟩ : StreamId) = stream := by
    have hchain : p.chainId = m.chainId := congrArg Prod.fst hkey
    have htoken : p.tokenAddress = m.tokenAddress :=
      (congrArg (fun l => l.tokenAddress) hlog).symm
    rw [hchain, htoken, hm.chainId, hm.tokenAddress]
  rw [hm.confirmed_of_le, ← hstream]
  rcases h.deep p hp hc with hdeep | hzero
  · exact Or.inl (hdeep.trans hle)
  · exact Or.inr hzero

/-- **One upsert of a sighting that is not behind** keeps the rows those of the
chain, takes none back, and adds to the totals. -/
theorem Recording.RowsTrue.upsert (h : ctx.RowsTrue db) {m : MatchedPaymentInput}
    (hm : ctx.Sighted stream head m) {record : PaymentRecord}
    (hup : upsertMatchedPaymentTx db stream m = .ok (record, db'))
    (hahead : ∀ p ∈ db.payments, p.key = m.key → p.chainStatus ≠ .orphaned →
      p.confirmations ≤ m.confirmations) :
    ctx.RowsTrue db' ∧ RowsKept db.payments db'.payments
      ∧ (∀ id, confirmedOnTimeTotal db.payments id ≤ confirmedOnTimeTotal db'.payments id)
      ∧ ∀ p ∈ db'.payments, p ∈ db.payments
        ∨ (p.key = m.key ∧ p.confirmations = m.confirmations) := by
  have hsingle : upsertMatchedPayments db [(stream, m)] = .ok ([record], db') := by
    unfold upsertMatchedPayments
    rw [hup]
    rfl
  have hschema := h.schema.upserts hsingle
  obtain ⟨hsight, hkey, -, -, hmem⟩ := rows_of_upsert hup h.schema.keys hm.chainId hm.tokenAddress
  obtain ⟨o, w, how, hdb, hrecord, hid⟩ := upsertMatchedPaymentTx_eq_ok hup
  obtain ⟨ho, -, hoc, hot, -, hw, hwo⟩ := PaymentDb.matchedOrder_eq_some how
  -- the columns of the row written
  have hconf : record.confirmations = m.confirmations := by
    rw [hrecord]
    rfl
  have htime : record.blockTime = m.blockTime := by
    rw [hrecord]
    rfl
  have horder : record.orderId = o.id := by
    rw [hrecord]
    rfl
  have hmatch : record.matchStatus = w.matchStatus record.blockNumber record.blockTime := by
    rw [hrecord]
    rfl
  have hwindow : ∀ v ∈ db.windows, v.orderId = record.orderId → v = w := fun v hv hvo =>
    List.inj_on_of_nodup_map h.schema.directory.windowIds hv hw
      (hvo.trans (horder.trans hwo.symm))
  have hkeeps : ∀ p ∈ db.payments, p.key = m.key → p.chainStatus ≠ .orphaned →
      p.KeptBy record := by
    intro p hp hk hlive
    have hkept := h.keptBy hm hp hk hlive (hahead p hp hk hlive)
    exact ⟨hkey.trans hkept.key, hsight.log.trans hkept.log, hsight.chainStatus ▸ hkept.live,
      fun hc => hsight.chainStatus.trans (hkept.confirmed hc), hconf ▸ hkept.confirmations⟩
  refine ⟨⟨hschema, ?_, ?_, ?_⟩, ?_, ?_, ?_⟩
  · intro p hp hlive
    rcases (hmem p).mp hp with rfl | ⟨hold, -⟩
    · rw [hkey, hsight.log, htime]
      exact ⟨hm.log, hm.blockTime⟩
    · exact h.log p hold hlive
  · intro p hp v hv hvo
    have hv' : v ∈ db.windows := by
      rw [hdb] at hv
      exact hv
    rcases (hmem p).mp hp with rfl | ⟨hold, -⟩
    · rw [hwindow v hv' hvo]
      exact hmatch
    · exact h.timed p hold v hv' hvo
  · intro p hp hc
    rcases (hmem p).mp hp with rfl | ⟨hold, -⟩
    · have hstream : (⟨p.chainId, p.tokenAddress⟩ : StreamId) = stream := by
        rw [hsight.chainId, hsight.tokenAddress, hm.chainId, hm.tokenAddress]
      rw [hstream, hconf]
      exact hm.confirmed_of_le.mp (hsight.chainStatus.symm.trans hc)
    · exact h.deep p hold hc
  · intro p hp hlive
    by_cases hk : p.key = m.key
    · exact ⟨record, (hmem record).mpr (Or.inl rfl), hkeeps p hp hk hlive⟩
    · exact ⟨p, (hmem p).mpr (Or.inr ⟨hp, hk⟩), PaymentRecord.KeptBy.refl hlive⟩
  · intro id
    rw [hdb]
    refine totalWhere_le_upsertBy (fun old hold hk => ?_)
    by_cases hlive : old.chainStatus = .orphaned
    · rw [PaymentRecord.share_of_orphaned hlive]
      exact Nat.zero_le _
    · have hkept := hkeeps old hold (hk.trans hkey) hlive
      have htarget : record.orderId = old.orderId := by
        rcases hid with ⟨old', hfind, hsame, -⟩ | ⟨hnone, -⟩
        · have hold' := mem_of_find?_key hfind
          rw [List.inj_on_of_nodup_map h.schema.keys hold hold'.1 (hk.trans hold'.2.symm)]
          exact (sameTarget_eq_true.mp hsame).1.symm
        · exact absurd (decide_eq_true hk) (List.find?_eq_none.mp hnone old hold)
      -- the same transfer and the same window, so it came as it did
      refine hkept.share_le htarget ?_ id
      have hblock : record.blockNumber = old.blockNumber :=
        congrArg ParsedTransferLog.blockNumber hkept.log
      have htime' : record.blockTime = old.blockTime := by
        rw [htime, hm.blockTime, (h.log old hold hlive).2, hk, hkey]
      rw [hmatch, hblock, htime']
      exact (h.timed old hold w hw (hwo.trans (horder.symm.trans htarget))).symm
  · intro p hp
    rcases (hmem p).mp hp with rfl | ⟨hold, -⟩
    · exact Or.inr ⟨hkey, hconf⟩
    · exact Or.inl hold

/-- **So do the upserts of a transaction**, all under one head. -/
theorem Recording.RowsTrue.upserts (h : ctx.RowsTrue db)
    {inputs : List (StreamId × MatchedPaymentInput)} {records : List PaymentRecord}
    (hsighted : ∀ e ∈ inputs, e.1 = stream ∧ ctx.Sighted stream head e.2)
    (hup : upsertMatchedPayments db inputs = .ok (records, db'))
    (hahead : ∀ e ∈ inputs, ∀ p ∈ db.payments, p.key = e.2.key → p.chainStatus ≠ .orphaned →
      p.confirmations ≤ e.2.confirmations) :
    ctx.RowsTrue db' ∧ RowsKept db.payments db'.payments
      ∧ ∀ id, confirmedOnTimeTotal db.payments id ≤ confirmedOnTimeTotal db'.payments id := by
  induction inputs generalizing db records with
  | nil =>
    obtain ⟨-, rfl⟩ := Prod.mk.inj (Except.ok.inj hup)
    exact ⟨h, RowsKept.refl _, fun _ => Nat.le_refl _⟩
  | cons e rest ih =>
    obtain ⟨σ, m⟩ := e
    obtain ⟨record, tail, db₁, h₁, h₂, -⟩ := upsertMatchedPayments_cons_eq_ok hup
    obtain ⟨hσ, hm⟩ := hsighted (σ, m) List.mem_cons_self
    dsimp only at hσ hm
    rw [hσ] at h₁
    obtain ⟨htrue, hkept, htotal, hrows⟩ := h.upsert hm h₁ (hahead (σ, m) List.mem_cons_self)
    -- a row the first sighting wrote is counted as a later one counts it
    have hahead₁ : ∀ e ∈ rest, ∀ p ∈ db₁.payments, p.key = e.2.key → p.chainStatus ≠ .orphaned →
        p.confirmations ≤ e.2.confirmations := by
      intro e he p hp hk hlive
      rcases hrows p hp with hold | ⟨hkey, hconf⟩
      · exact hahead e (List.mem_cons_of_mem _ he) p hold hk hlive
      · rw [hconf, hm.confirmations_eq (hsighted e (List.mem_cons_of_mem _ he)).2
          (hkey.symm.trans hk)]
    obtain ⟨htrue', hkept', htotal'⟩ := ih htrue
      (fun e he => hsighted e (List.mem_cons_of_mem _ he)) h₂ hahead₁
    exact ⟨htrue', hkept.trans hkept', fun id => (htotal id).trans (htotal' id)⟩

/-! ## The orders -/

/-- Orders that are recomputed over totals that grew are paid no less, and are paid
what they come to. -/
theorem PaymentChange.paid {now : Timestamp} {orderIds : List Uuid}
    (h : PaymentChange db now orderIds db') (hsynced : db.Synced)
    (hoverrides : db'.overrides = db.overrides)
    (htotal : ∀ id, confirmedOnTimeTotal db.payments id ≤ confirmedOnTimeTotal db'.payments id) :
    db'.Synced ∧ ∀ o ∈ db.orders, ∃ o' ∈ db'.orders, o'.id = o.id
      ∧ o.paidAmountRaw ≤ o'.paidAmountRaw := by
  constructor
  · intro o ho
    rw [h.orders] at ho
    rcases mem_updateWhere.mp ho with ⟨o', -, -, rfl⟩ | ⟨hold, hout⟩
    · rfl
    · have hsame : confirmedOnTimeTotal db'.payments o.id = confirmedOnTimeTotal db.payments o.id :=
        h.totals o.id (of_decide_eq_false hout) _
      rw [hsame, hoverrides]
      exact hsynced o hold
  · intro o ho
    rw [h.orders]
    by_cases hid : o.id ∈ orderIds
    · refine ⟨_, mem_updateWhere.mpr (Or.inl ⟨o, ho, decide_eq_true hid, rfl⟩), rfl, ?_⟩
      rw [hsynced o ho, ← hoverrides]
      exact Nat.add_le_add_right (htotal o.id) _
    · exact ⟨o, mem_updateWhere.mpr (Or.inr ⟨ho, decide_eq_false hid⟩), rfl, Nat.le_refl _⟩

/-- The rows are those of the chain, under other orders with the same targets. -/
theorem Recording.RowsTrue.congr (h : ctx.RowsTrue db) (hschema : db'.Schema)
    (hpayments : db'.payments = db.payments) (hwindows : db'.windows = db.windows) :
    ctx.RowsTrue db' := by
  refine ⟨hschema, ?_, ?_, ?_⟩
  · rw [hpayments]
    exact h.log
  · rw [hpayments, hwindows]
    exact h.timed
  · rw [hpayments]
    exact h.deep

/-- **Every state of a run**: the rows are those of the chain, and the orders are
paid what they come to. -/
structure Recording.Inv (ctx : Recording) (db : PaymentDb) : Prop where
  rows : ctx.RowsTrue db
  synced : db.Synced

/-- A change that leaves the payments alone. -/
theorem Recording.Inv.of_change (h : ctx.Inv db) {now : Timestamp} {orderIds : List Uuid}
    (hchange : PaymentChange db now orderIds db') (hschema : db'.Schema)
    (hpayments : db'.payments = db.payments) (hoverrides : db'.overrides = db.overrides) :
    ctx.Inv db' ∧ NothingTakenBack db db' := by
  obtain ⟨hsynced, hpaid⟩ := hchange.paid h.synced hoverrides
    (fun id => by rw [hpayments])
  refine ⟨⟨h.rows.congr hschema hpayments hchange.windows, hsynced⟩, ?_, hpaid⟩
  rw [hpayments]
  exact RowsKept.refl _

/-- **A recording that is not behind.** -/
theorem Recording.Inv.of_upserts (h : ctx.Inv db) {db₁ : PaymentDb} {now : Timestamp}
    {orderIds : List Uuid} {inputs : List (StreamId × MatchedPaymentInput)}
    {records : List PaymentRecord}
    (hsighted : ∀ e ∈ inputs, e.1 = stream ∧ ctx.Sighted stream head e.2)
    (hup : upsertMatchedPayments db inputs = .ok (records, db₁))
    (hahead : ∀ e ∈ inputs, ∀ p ∈ db.payments, p.key = e.2.key → p.chainStatus ≠ .orphaned →
      p.confirmations ≤ e.2.confirmations)
    (hids : ∀ r ∈ records, r.orderId ∈ orderIds) (hfits : db₁.RecomputeFits now orderIds) :
    ctx.Inv (db₁.recomputed now orderIds)
      ∧ NothingTakenBack db (db₁.recomputed now orderIds) := by
  obtain ⟨htrue, hkept, htotal⟩ := h.rows.upserts hsighted hup hahead
  have hover : db₁.overrides = db.overrides := by rw [upsertMatchedPayments_frame hup]
  obtain ⟨hsynced, hpaid⟩ :=
    (PaymentChange.of_upserts hup hids hfits).paid h.synced hover htotal
  exact ⟨⟨htrue.congr (htrue.schema.recomputed now orderIds) rfl rfl, hsynced⟩, hkept, hpaid⟩

/-! ## Every step -/

theorem NothingTakenBack.refl (db : PaymentDb) : NothingTakenBack db db :=
  ⟨RowsKept.refl _, fun o ho => ⟨o, ho, rfl, Nat.le_refl _⟩⟩

theorem NothingTakenBack.trans {db'' : PaymentDb} (h : NothingTakenBack db db')
    (h' : NothingTakenBack db' db'') : NothingTakenBack db db'' := by
  refine ⟨h.rows.trans h'.rows, fun o ho => ?_⟩
  obtain ⟨o', ho', hid, hle⟩ := h.paid o ho
  obtain ⟨o'', ho'', hid', hle'⟩ := h'.paid o' ho'
  exact ⟨o'', ho'', hid'.trans hid, hle.trans hle'⟩

namespace Recording.Inv

/-- A head that is not behind counts every row it writes to at least as often. -/
theorem le_of_notBehind (h : ctx.Inv db) {logs : List TransferLog}
    {candidates : List PaymentWindowCandidate} {newId : ℕ → Uuid}
    (hanswers : ctx.answers logs = true) (hahead : db.NotBehind logs head)
    {m : MatchedPaymentInput} (hm : m ∈ matchTransferLogs stream (ctx.minConfirmations stream) logs
      candidates head newId) {p : PaymentRecord} (hp : p ∈ db.payments) (hkey : p.key = m.key)
    (hlive : p.chainStatus ≠ .orphaned) : p.confirmations ≤ m.confirmations := by
  obtain ⟨hsighted, log, hlog, hmkey⟩ := sighted_of_matched hanswers hm
  have hblock : m.blockNumber = p.blockNumber := by
    have hsame : m.log = p.log := by rw [hsighted.log, (h.rows.log p hp hlive).1, hkey]
    exact congrArg ParsedTransferLog.blockNumber hsame
  have hle := le_chainStatus_of_countedBy (hahead log hlog p hp (hkey.trans hmkey) hlive)
    (show m.block.number = p.blockNumber from hblock) (ctx.minConfirmations stream)
  rw [← hsighted.status] at hle
  exact hle

theorem updateCursor (h : ctx.Inv db) (σ : StreamId) (f : ChainCursor → ChainCursor) :
    ctx.Inv (db.updateCursor σ f) :=
  ⟨h.rows.congr (h.rows.schema.updateCursor σ f) rfl rfl, h.synced⟩

/-- **A committed scan.** -/
theorem scan (h : ctx.Inv db) {now : Timestamp} {batch : CommitScannedBatch}
    {logs : List TransferLog} {candidates : List PaymentWindowCandidate} {newId : ℕ → Uuid}
    {records : List PaymentRecord} (hanswers : ctx.answers logs = true)
    (hahead : db.NotBehind logs head)
    (hcommit : commitScannedBatch db now (ctx.scanned batch logs candidates head newId)
      = .ok (records, db')) : ctx.Inv db' ∧ NothingTakenBack db db' := by
  obtain ⟨c, db₁, -, -, -, -, -, hup, hfits, rfl⟩ := commitScannedBatch_eq_ok hcommit
  have hsighted : ∀ e ∈ (ctx.scanned batch logs candidates head newId).matchedPayments.map
      (fun m => (batch.stream, m)), e.1 = batch.stream ∧ ctx.Sighted batch.stream head e.2 := by
    intro e he
    obtain ⟨m, hm, rfl⟩ := List.mem_map.mp he
    exact ⟨rfl, (sighted_of_matched hanswers hm).1⟩
  have hcounted : ∀ e ∈ (ctx.scanned batch logs candidates head newId).matchedPayments.map
      (fun m => (batch.stream, m)), ∀ p ∈ db.payments, p.key = e.2.key →
        p.chainStatus ≠ .orphaned → p.confirmations ≤ e.2.confirmations := by
    intro e he p hp hk hlive
    obtain ⟨m, hm, rfl⟩ := List.mem_map.mp he
    exact h.le_of_notBehind hanswers hahead hm hp hk hlive
  obtain ⟨hinv, hback⟩ := h.of_upserts hsighted hup hcounted
    (fun r hr => mem_sortedSet.mpr (List.mem_map_of_mem hr)) hfits
  exact ⟨hinv.updateCursor _ _, hback.rows, hback.paid⟩

/-- **A recorded verification.** -/
theorem verify (h : ctx.Inv db) {now : Timestamp} {orderId : Uuid} {logs : List TransferLog}
    {candidates : List PaymentWindowCandidate} {newId : ℕ → Uuid} {records : List PaymentRecord}
    (hanswers : ctx.answers logs = true) (hahead : db.NotBehind logs head)
    (hrecord : recordVerifiedPayments db now orderId
      (matchTransferLogs stream (ctx.minConfirmations stream) logs candidates head newId)
      = .ok (records, db')) : ctx.Inv db' ∧ NothingTakenBack db db' := by
  obtain ⟨hall, written, db₁, hup, hfits, rfl⟩ := recordVerifiedPayments_eq_ok hrecord
  have hsighted : ∀ e ∈ (matchTransferLogs stream (ctx.minConfirmations stream) logs candidates head
      newId).map (fun m => ((⟨m.chainId, m.tokenAddress⟩ : StreamId), m)),
      e.1 = stream ∧ ctx.Sighted stream head e.2 := by
    intro e he
    obtain ⟨m, hm, rfl⟩ := List.mem_map.mp he
    have hseen := (sighted_of_matched hanswers hm).1
    refine ⟨?_, hseen⟩
    dsimp only
    rw [hseen.chainId, hseen.tokenAddress]
  refine h.of_upserts hsighted hup ?_ ?_ hfits
  · intro e he p hp hk hlive
    obtain ⟨m, hm, rfl⟩ := List.mem_map.mp he
    exact h.le_of_notBehind hanswers hahead hm hp hk hlive
  · intro r hr
    exact mem_sortedSet.mpr (List.mem_singleton.mpr
      (orderId_of_mem_upserts hup hr (by simpa using hall)))

/-- A confirmed row is kept: it is the same payment, counted no less. -/
theorem keptBy_confirmRow (head : ChainBlockRef) (p : PaymentRecord) :
    p.KeptBy (confirmRow head p) :=
  ⟨rfl, rfl, fun hc => (by cases hc), fun _ => rfl, Nat.le_max_left _ _⟩

/-- A row a sweep selects is as deep as its token asks for. -/
theorem deep_of_selected {candidates : List PaymentConfirmationCandidate}
    (hholds : db.holds candidates = true) {p : PaymentRecord} (hp : p ∈ db.payments)
    (hsel : confirmSelects (ctx.swept stream candidates head) p = true) :
    ctx.minConfirmations ⟨p.chainId, p.tokenAddress⟩ ≤ (confirmRow head p).confirmations
      ∨ ctx.minConfirmations ⟨p.chainId, p.tokenAddress⟩ = 0 := by
  unfold confirmSelects PaymentRecord.isObservedOf at hsel
  simp only [Bool.and_eq_true, decide_eq_true_eq] at hsel
  obtain ⟨⟨hid, ⟨hchain, htoken⟩, -⟩, -⟩ := hsel
  obtain ⟨c, hc, hcid⟩ := List.mem_map.mp hid
  obtain ⟨hc, hdeep⟩ := List.mem_filter.mp hc
  -- the row still is in the block that was checked
  have hstored := List.all_eq_true.mp (List.all_eq_true.mp hholds c hc) p hp
  have hblock : p.block = c.block := by simpa [hcid] using hstored
  rw [← hblock, ChainBlockRef.hasConfirmations_iff] at hdeep
  have hstream : (⟨p.chainId, p.tokenAddress⟩ : StreamId) = stream := by
    rw [hchain, htoken]
    rfl
  rw [hstream]
  rcases hdeep with hzero | hdeep
  · exact Or.inr hzero
  · refine Or.inl (le_trans ?_ (Nat.le_max_right _ _))
    have hnumber : p.block.number = p.blockNumber := rfl
    omega

/-- **A sweep.** It confirms what it found deep enough. -/
theorem sweep (h : ctx.Inv db) {now : Timestamp} {candidates : List PaymentConfirmationCandidate}
    {records : List PaymentRecord} (hholds : db.holds candidates = true)
    (hconfirm : confirmObservedPayments db now (ctx.swept stream candidates head)
      = .ok (records, db')) : ctx.Inv db' ∧ NothingTakenBack db db' := by
  have hschema := h.rows.schema.confirmed hconfirm
  obtain ⟨orderIds, hids, hfits, rfl⟩ := confirmObservedPayments_eq_ok hconfirm
  have hchange : PaymentChange db now orderIds (PaymentDb.recomputed { db with
      payments := updateWhere (confirmSelects (ctx.swept stream candidates head))
        (confirmRow head) db.payments } now orderIds) :=
    PaymentChange.of_updateWhere (f := confirmRow head) (fun _ => rfl) rfl rfl rfl rfl hids hfits
  have htotal : ∀ id, confirmedOnTimeTotal db.payments id ≤ confirmedOnTimeTotal
      (updateWhere (confirmSelects (ctx.swept stream candidates head)) (confirmRow head)
        db.payments) id := by
    intro id
    refine totalWhere_le_updateWhere (fun p _ _ => ?_) (fun p _ _ => Nat.le_refl _)
    exact (keptBy_confirmRow head p).share_le rfl rfl id
  obtain ⟨hsynced, hpaid⟩ := hchange.paid h.synced rfl htotal
  refine ⟨⟨⟨hschema, ?_, ?_, ?_⟩, hsynced⟩, ?_, hpaid⟩
  · intro p hp hlive
    rcases mem_updateWhere.mp hp with ⟨q, hq, hsel, rfl⟩ | ⟨hold, -⟩
    · have hobserved : q.chainStatus ≠ .orphaned := by
        unfold confirmSelects PaymentRecord.isObservedOf at hsel
        simp only [Bool.and_eq_true, decide_eq_true_eq] at hsel
        rw [hsel.1.2.2]
        exact fun hc => by cases hc
      exact h.rows.log q hq hobserved
    · exact h.rows.log p hold hlive
  · intro p hp w hw hwo
    rcases mem_updateWhere.mp hp with ⟨q, hq, -, rfl⟩ | ⟨hold, -⟩
    · exact h.rows.timed q hq w hw hwo
    · exact h.rows.timed p hold w hw hwo
  · intro p hp hc
    rcases mem_updateWhere.mp hp with ⟨q, hq, hsel, rfl⟩ | ⟨hold, -⟩
    · exact deep_of_selected hholds hq hsel
    · exact h.rows.deep p hold hc
  · intro p hp hlive
    by_cases hsel : confirmSelects (ctx.swept stream candidates head) p = true
    · exact ⟨_, mem_updateWhere.mpr (Or.inl ⟨p, hp, hsel, rfl⟩), keptBy_confirmRow head p⟩
    · exact ⟨p, mem_updateWhere.mpr (Or.inr ⟨hp, by simpa using hsel⟩),
        PaymentRecord.KeptBy.refl hlive⟩

/-- A new order has no payments and is paid nothing. -/
theorem order (h : ctx.Inv db) {o : OrderRecord} {w : PaymentWindowRecord}
    (hadmits : db.admits o w = true) (hpaid : o.paidAmountRaw = 0)
    (hoverrides : ∀ ov ∈ db.overrides, ov.orderId ≠ o.id) :
    ctx.Inv { db with orders := db.orders ++ [o], windows := db.windows ++ [w] } := by
  have hschema := h.rows.schema.order hadmits
  unfold PaymentDb.admits at hadmits
  simp only [Bool.and_eq_true, List.all_eq_true, decide_eq_true_eq] at hadmits
  obtain ⟨⟨⟨horders, -⟩, hwo⟩, -⟩ := hadmits
  have hnone : ∀ p ∈ db.payments, p.orderId ≠ o.id := by
    intro p hp hpo
    obtain ⟨o', ho', hid, -⟩ := h.rows.schema.references p hp
    exact (horders o' ho').1 (hid.trans hpo)
  refine ⟨⟨hschema, h.rows.log, fun p hp v hv hvo => ?_, h.rows.deep⟩, fun o' ho' => ?_⟩
  · rcases List.mem_append.mp hv with hv | hv
    · exact h.rows.timed p hp v hv hvo
    · rw [List.mem_singleton.mp hv, hwo] at hvo
      exact absurd hvo.symm (hnone p hp)
  · rcases List.mem_append.mp ho' with ho' | ho'
    · exact h.synced o' ho'
    · rw [List.mem_singleton.mp ho', hpaid]
      have htotal : confirmedOnTimeTotal db.payments o.id = 0 := totalWhere_eq_zero hnone
      have haccepted : acceptedProblemPayment db.overrides o.id = 0 := by
        unfold acceptedProblemPayment
        rw [List.find?_eq_none.mpr (fun ov hov => by simpa using hoverrides ov hov)]
        rfl
      show 0 = confirmedOnTimeTotal db.payments o.id + acceptedProblemPayment db.overrides o.id
      rw [htotal, haccepted]

/-- A claim moves no payment and no order. -/
theorem claim (h : ctx.Inv db) {now leaseUntil : Timestamp} {workerId : String}
    {answer : Option ScanCursorLease}
    (hclaim : claimScanRange db now workerId stream leaseUntil = .ok (answer, db')) :
    ctx.Inv db' ∧ NothingTakenBack db db' := by
  rcases claimScanRange_eq_ok hclaim with ⟨-, rfl⟩ | ⟨c, -, -, rfl⟩
  · exact ⟨h, NothingTakenBack.refl _⟩
  · have hsame := NothingTakenBack.refl db
    exact ⟨h.updateCursor _ _, hsame.rows, hsame.paid⟩

/-- The expiry job changes statuses only. -/
theorem expire (h : ctx.Inv db) {databaseNow now : Timestamp} {limit count : ℕ}
    (hexpire : recomputeExpiredOpenOrders db databaseNow now limit = .ok (count, db')) :
    ctx.Inv db' ∧ NothingTakenBack db db' := by
  have hrun : runPaymentOp db now (.recomputeExpiredOpenOrders databaseNow limit) = .ok db' :=
    Except.map_eq_ok.mpr ⟨(count, db'), hexpire, rfl⟩
  obtain ⟨orderIds, hchange⟩ := paymentChange_of_run hrun
  obtain ⟨orderIds', -, rfl⟩ := recomputeExpiredOpenOrders_eq_ok hexpire
  exact h.of_change hchange (h.rows.schema.recomputed now orderIds') rfl rfl

/-- A transaction takes nothing back if its commit does not. -/
theorem after {α : Type} (h : ctx.Inv db) {tx : Except RepositoryError (α × PaymentDb)}
    (hok : ∀ answer db', tx = .ok (answer, db') → ctx.Inv db' ∧ NothingTakenBack db db') :
    ctx.Inv (db.after tx) ∧ NothingTakenBack db (db.after tx) := by
  cases htx : tx with
  | error e => exact ⟨h, NothingTakenBack.refl db⟩
  | ok result => exact hok result.1 result.2 htx

/-- **Every step that is not behind keeps the invariant and takes nothing back.** -/
theorem step (h : ctx.Inv db) {e : RecordingEvent} (hdate : e.UpToDate db)
    (hstep : ctx.step db e = some db') : ctx.Inv db' ∧ NothingTakenBack db db' := by
  cases e with
  | order o w =>
    obtain ⟨hcond, hstep⟩ := Option.ite_none_right_eq_some.mp hstep
    simp only [Bool.and_eq_true, List.all_eq_true, decide_eq_true_eq] at hcond
    obtain rfl := Option.some.inj hstep
    refine ⟨h.order hcond.1.1 hcond.1.2 hcond.2, RowsKept.refl _, fun o' ho' => ?_⟩
    exact ⟨o', List.mem_append_left _ ho', rfl, Nat.le_refl _⟩
  | claim now workerId stream leaseUntil =>
    obtain rfl := Option.some.inj hstep
    exact h.after (fun _ _ hclaim => h.claim hclaim)
  | scan now batch logs candidates head newId =>
    obtain ⟨hanswers, hstep⟩ := Option.ite_none_right_eq_some.mp hstep
    obtain rfl := Option.some.inj hstep
    exact h.after (fun _ _ hcommit => h.scan hanswers hdate hcommit)
  | verify now orderId stream logs candidates head newId =>
    obtain ⟨hanswers, hstep⟩ := Option.ite_none_right_eq_some.mp hstep
    obtain rfl := Option.some.inj hstep
    exact h.after (fun _ _ hrecord => h.verify hanswers hdate hrecord)
  | sweep now stream candidates head =>
    obtain ⟨hholds, hstep⟩ := Option.ite_none_right_eq_some.mp hstep
    obtain rfl := Option.some.inj hstep
    exact h.after (fun _ _ hconfirm => h.sweep hholds hconfirm)
  | expire databaseNow now limit =>
    obtain rfl := Option.some.inj hstep
    exact h.after (fun _ _ hexpire => h.expire hexpire)

end Recording.Inv

/-- **Recordings that are not behind take nothing back.** From any state of a run
while the chain only grows, in every run whose recordings each use a head no
lower than the one the rows they write to were counted under: a payment that is
not orphaned stays, is never taken from confirmed back to observed and never
loses a confirmation, and no order is ever paid less. -/
theorem recordings_take_nothing_back (ctx : Recording) {start s t : PaymentDb}
    {before later : List RecordingEvent} (hstart : ctx.Inv start)
    (hbefore : runSteps ctx.step start before = some s)
    (hdate : StepsMeet ctx.step (fun db e => e.UpToDate db) start before)
    (hlater : runSteps ctx.step s later = some t)
    (hdate' : StepsMeet ctx.step (fun db e => e.UpToDate db) s later) : NothingTakenBack s t := by
  have hinv : ctx.Inv s := inv_of_run (P := fun db e => e.UpToDate db)
    (fun _ _ _ hI hP hst => (hI.step hP hst).1) hstart hdate hbefore
  exact rel_of_run NothingTakenBack.refl (fun _ _ _ => NothingTakenBack.trans)
    (fun _ _ _ hI hP hst => (hI.step hP hst).1) (fun _ _ _ hI hP hst => (hI.step hP hst).2) hinv
    hdate' hlater

namespace SmallScanner

/-- Two confirmations for every token, and one transfer. -/
def recording : Recording := ⟨fun _ => 2, fun _ => ⟨⟨transfer, 1, 0xa1⟩, 1, 1⟩⟩

/-- What the lookup of the order gives. -/
def orderCandidates : List PaymentWindowCandidate :=
  [candidateFromOrderView order ⟨0xd1, 0xc1, ⟨0, 0x90⟩, 10, 20⟩]

/-- The scan of block 1 under a head. -/
def scanUnder (head : ChainBlockRef) : RecordingEvent :=
  .scan 0 ⟨config.stream, "scanner", 0, 1, 0, []⟩ [⟨⟨transfer, 1, 0xa1⟩, 1, 1⟩] orderCandidates head
    (idsFrom 0xf0)

/-- A verification of the order under a head. -/
def verifyUnder (head : ChainBlockRef) : RecordingEvent :=
  .verify 0 0xd1 config.stream [⟨⟨transfer, 1, 0xa1⟩, 1, 1⟩] orderCandidates head (idsFrom 0xf8)

theorem claimedDb_inv : recording.Inv claimedDb := by
  refine ⟨⟨claimedDb_schema, ?_, ?_, ?_⟩, ?_⟩
  · exact fun p hp => absurd hp List.not_mem_nil
  · exact fun p hp => absurd hp List.not_mem_nil
  · exact fun p hp => absurd hp List.not_mem_nil
  · intro o ho
    rw [List.mem_singleton.mp ho]
    rfl

end SmallScanner

open SmallScanner in
/-- A payment seen under its own block, and verified two blocks later. -/
theorem recordings_take_nothing_back_two :
    ∃ s t, runSteps recording.step claimedDb [scanUnder ⟨1, 0xa1⟩] = some s
      ∧ runSteps recording.step s [verifyUnder ⟨2, 0xa2⟩] = some t ∧ NothingTakenBack s t := by
  have hscan : (runSteps recording.step claimedDb [scanUnder ⟨1, 0xa1⟩]).isSome = true := by
    decide +kernel
  have hverify : ((runSteps recording.step claimedDb [scanUnder ⟨1, 0xa1⟩]).bind (fun s =>
      runSteps recording.step s [verifyUnder ⟨2, 0xa2⟩])).isSome = true := by decide +kernel
  have hdate : ∀ s ∈ runSteps recording.step claimedDb [scanUnder ⟨1, 0xa1⟩],
      StepsMeet recording.step (fun db e => e.UpToDate db) s [verifyUnder ⟨2, 0xa2⟩] := by
    decide +kernel
  obtain ⟨s, hs⟩ := Option.isSome_iff_exists.mp hscan
  obtain ⟨t, ht⟩ := Option.isSome_iff_exists.mp hverify
  rw [hs] at ht
  exact ⟨s, t, hs, ht, recordings_take_nothing_back recording claimedDb_inv hs (by decide +kernel) ht
    (hdate s hs)⟩

open SmallScanner in
/-- **A verification under an older head takes a payment back.** The scan saw the
payment under two blocks and confirmed it; the provider of the verification is one
block behind. The row is observed again, and the order that was paid is not. -/
theorem lagging_verification_takes_back :
    ∃ s t, runSteps recording.step claimedDb [scanUnder ⟨2, 0xa2⟩] = some s
      ∧ runSteps recording.step s [verifyUnder ⟨1, 0xa1⟩] = some t
      ∧ s.payments.map (fun p => (p.chainStatus, p.confirmations)) = [(.confirmed, 2)]
      ∧ t.payments.map (fun p => (p.chainStatus, p.confirmations)) = [(.observed, 1)]
      ∧ s.orders.map OrderRecord.paidAmountRaw = [100]
      ∧ t.orders.map OrderRecord.paidAmountRaw = [0] ∧ ¬ NothingTakenBack s t := by
  have hfacts : ((runSteps recording.step claimedDb [scanUnder ⟨2, 0xa2⟩]).bind (fun s =>
      (runSteps recording.step s [verifyUnder ⟨1, 0xa1⟩]).map (fun t =>
        (s.payments.map (fun p => (p.chainStatus, p.confirmations)),
          t.payments.map (fun p => (p.chainStatus, p.confirmations)),
          s.orders.map OrderRecord.paidAmountRaw, t.orders.map OrderRecord.paidAmountRaw))))
      = some ([(.confirmed, 2)], [(.observed, 1)], [100], [0]) := by decide +kernel
  obtain ⟨s, hs, hfacts⟩ := Option.bind_eq_some_iff.mp hfacts
  obtain ⟨t, ht, hfacts⟩ := Option.map_eq_some_iff.mp hfacts
  simp only [Prod.mk.injEq] at hfacts
  obtain ⟨hspay, htpay, hspaid, htpaid⟩ := hfacts
  refine ⟨s, t, hs, ht, hspay, htpay, hspaid, htpaid, fun hback => ?_⟩
  -- the order was paid 100 before and 0 after
  have hmem : 100 ∈ s.orders.map OrderRecord.paidAmountRaw := by
    rw [hspaid]
    exact List.mem_singleton_self _
  obtain ⟨o, ho, hpaid⟩ := List.mem_map.mp hmem
  obtain ⟨o', ho', -, hle⟩ := hback.paid o ho
  have hmem' : o'.paidAmountRaw ∈ t.orders.map OrderRecord.paidAmountRaw := List.mem_map_of_mem ho'
  rw [htpaid, List.mem_singleton] at hmem'
  omega
