import Pay3.ScannedBatches

/-!
# A tick of the scanner, start to end

The scanner as a system of workers stops between any two of its calls. Where
nothing else happens in between, a tick is a function of the database and of
what the node answers: it claims the cursor, confirms what it can, and if there
was nothing to confirm it scans the next range of blocks. This module has the
tick as that function, over any source of blocks and logs, and says which of the
repository's transactions it ran.

An error ends the tick, and what was committed before it stays: a tick that
fails after the claim leaves the lease behind.
-/

/-- The clocks of one tick and the ids it draws. -/
structure TickInput where
  clockNow : Timestamp
  now : Timestamp
  newId : ℕ → Uuid

section

variable (cfg : PaymentScannerConfig) (source : ChainSource) (input : TickInput)

/-- The canonical block of a candidate, asked for once in a sweep. -/
def sweptBlock (canonicalBlocks : List ChainBlockRef) (number : ℕ) :
    Except PaymentScannerError ChainBlockRef :=
  match canonicalBlocks.find? (fun b => decide (b.number = number)) with
  | some b => .ok b
  | none => ((source.blockByNumber number).map ChainBlock.blockRef).mapError .chain

/-- **`canonical_confirmable_payment_ids`**, with the blocks read so far. -/
def canonicalConfirmablePaymentIds (head : ChainBlockRef) :
    List PaymentConfirmationCandidate → List ChainBlockRef →
      Except PaymentScannerError (List Uuid)
  | [], _ => .ok []
  | c :: rest, canonicalBlocks => do
    let block ← sweptBlock source canonicalBlocks c.block.number
    ensure (decide (block.hash = c.block.hash))
      (.canonicalBlockHashMismatch c.block.number c.block.hash block.hash)
    let paymentIds ← canonicalConfirmablePaymentIds head rest (block :: canonicalBlocks)
    pure (if c.block.hasConfirmations head cfg.minConfirmations then c.paymentId :: paymentIds
      else paymentIds)

/-- The payments a sweep is about to confirm; none when there is nothing to do. -/
def sweepPaymentIds (head : ChainBlockRef) (db : PaymentDb) :
    Except PaymentScannerError (List Uuid) :=
  match maxConfirmableBlock head cfg.minConfirmations with
  | none => .ok []
  | some maxBlockNumber => do
    let candidates ← (observedPaymentConfirmationCandidates db cfg.stream maxBlockNumber
      cfg.confirmationSweepLimit).mapError .repository
    canonicalConfirmablePaymentIds cfg source head candidates []

/-- **`sweep_confirmations`**: what it answers, and the database after it. -/
def sweepConfirmations (db : PaymentDb) :
    Except PaymentScannerError (Option PaymentScannerTickOutcome × PaymentDb) := do
  let head ← source.latestHead.mapError .chain
  let paymentIds ← sweepPaymentIds cfg source head db
  let (records, db') ← (confirmObservedPayments db input.now
    ⟨cfg.stream, paymentIds, head⟩).mapError .repository
  pure (if records.isEmpty then none
    else some (.confirmationsSwept cfg.stream head records.length (recomputeOrderIds records)
      records), db')

/-- The batch a tick commits under its lease. -/
def tickBatch (lease : ScanCursorLease) (toBlock : ℕ) (matched : List MatchedPaymentInput) :
    CommitScannedBatch where
  stream := cfg.stream
  workerId := cfg.workerId
  expectedLastScannedBlock := lease.lastScannedBlock
  completeToBlock := toBlock
  expectedSeenKvReorgEpoch := lease.seenKvReorgEpoch
  matchedPayments := matched

/-- The scan of a tick: the range is matched as a whole and committed. -/
def scanBatch (lease : ScanCursorLease) (targetBlock : ℕ) (db : PaymentDb) :
    Except PaymentScannerError (PaymentScannerTickOutcome × PaymentDb) :=
  if targetBlock ≤ lease.lastScannedBlock then
    .ok (.idle cfg.stream lease.lastScannedBlock targetBlock, db)
  else do
    let fromBlock := lease.lastScannedBlock + 1
    let toBlock := cfg.toBlock fromBlock targetBlock
    let matched ← (matchRange cfg source db input.newId fromBlock toBlock).mapError .paymentMatching
    let (records, db') ← (commitScannedBatch db input.now
      (tickBatch cfg lease toBlock matched)).mapError .repository
    pure (.committed cfg.stream toBlock matched.length (recomputeOrderIds matched) records, db')

/-- What follows the claim: a sweep, and a scan if there was nothing to confirm. -/
def underLease (lease : ScanCursorLease) (db : PaymentDb) :
    Except PaymentScannerError (PaymentScannerTickOutcome × PaymentDb) := do
  let head ← source.latestHead.mapError .chain
  let (swept, db₁) ← sweepConfirmations cfg source input db
  match swept with
  | some outcome => pure (outcome, db₁)
  | none => scanBatch cfg source input lease head.number db₁

/-- What precedes it: the configuration is checked and the cursor claimed. -/
def claimForTick (db : PaymentDb) :
    Except PaymentScannerError (Option ScanCursorLease × PaymentDb) := do
  cfg.validate
  let leaseUntil := input.clockNow + cfg.leaseDuration
  ensure (decide (leaseUntil ≤ maxTimestamp)) .leaseTimestampOverflow
  (claimScanRange db input.now cfg.workerId cfg.stream leaseUntil).mapError .repository

/-- **`tick`**: the database it leaves and what it returns. -/
def tick (db : PaymentDb) : PaymentDb × Except PaymentScannerError PaymentScannerTickOutcome :=
  match claimForTick cfg input db with
  | .error e => (db, .error e)
  | .ok (none, db₁) => (db₁, .ok (.leaseHeld cfg.stream cfg.workerId))
  | .ok (some lease, db₁) =>
    match underLease cfg source input lease db₁ with
    | .error e => (db₁, .error e)
    | .ok (outcome, db₂) => (db₂, .ok outcome)

end

/-! ## What a tick ran -/

section

variable {cfg : PaymentScannerConfig} {source : ChainSource} {input : TickInput} {db db' : PaymentDb}

/-- A confirming update that selects nothing changes nothing. -/
theorem confirmObservedPayments_nil {now : Timestamp} {batch : ConfirmObservedPaymentsBatch}
    (h : confirmObservedPayments db now batch = .ok ([], db')) : db' = db := by
  unfold confirmObservedPayments at h
  by_cases he : batch.paymentIds.isEmpty = true
  · rw [if_pos he] at h
    exact (Prod.mk.inj (Except.ok.inj h)).2.symm
  · rw [if_neg he] at h
    obtain ⟨_, -, h⟩ := Except.bind_eq_ok.mp h
    obtain ⟨_, -, h⟩ := Except.bind_eq_ok.mp h
    obtain ⟨db₂, hre, h⟩ := Except.bind_eq_ok.mp h
    obtain ⟨hrecords, rfl⟩ := Prod.mk.inj (Except.pure_eq_ok.mp h)
    have hnone : ∀ p ∈ db.payments, confirmSelects batch p = false := by
      intro p hp
      by_contra hsel
      have hmem : confirmRow batch.canonicalHead p ∈ ((db.payments.filter (confirmSelects batch)).map
          (confirmRow batch.canonicalHead)).insertionSort (fun a b => a.leByBlock b = true) := by
        rw [List.mem_insertionSort]
        exact List.mem_map_of_mem (List.mem_filter.mpr ⟨hp, by simpa using hsel⟩)
      rw [hrecords] at hmem
      exact List.not_mem_nil hmem
    rw [hrecords, updateWhere_of_forall_false hnone] at hre
    exact (Except.ok.inj hre).symm

/-- A sweep that ends confirmed the payments it found under the head. -/
theorem sweepConfirmations_eq_ok {answer : Option PaymentScannerTickOutcome}
    (h : sweepConfirmations cfg source input db = .ok (answer, db')) :
    ∃ head paymentIds records, source.latestHead = .ok head
      ∧ sweepPaymentIds cfg source head db = .ok paymentIds
      ∧ confirmObservedPayments db input.now ⟨cfg.stream, paymentIds, head⟩ = .ok (records, db')
      ∧ answer = if records.isEmpty then none
        else some (.confirmationsSwept cfg.stream head records.length (recomputeOrderIds records)
          records) := by
  unfold sweepConfirmations at h
  obtain ⟨head, hhead, h⟩ := Except.bind_eq_ok.mp h
  obtain ⟨paymentIds, hids, h⟩ := Except.bind_eq_ok.mp h
  obtain ⟨⟨records, db₁⟩, hconfirm, h⟩ := Except.bind_eq_ok.mp h
  obtain ⟨rfl, rfl⟩ := Prod.mk.inj (Except.pure_eq_ok.mp h)
  exact ⟨head, paymentIds, records, Except.mapError_eq_ok.mp hhead, hids,
    Except.mapError_eq_ok.mp hconfirm, rfl⟩

/-- A sweep with nothing to report left the database alone. -/
theorem sweepConfirmations_none (h : sweepConfirmations cfg source input db = .ok (none, db')) :
    db' = db := by
  obtain ⟨head, paymentIds, records, -, -, hconfirm, hanswer⟩ := sweepConfirmations_eq_ok h
  cases records with
  | nil => exact confirmObservedPayments_nil hconfirm
  | cons r rs => cases hanswer

/-- **A scan that ends** had nothing to do, or committed what it matched. -/
theorem scanBatch_eq_ok {lease : ScanCursorLease} {targetBlock : ℕ}
    {outcome : PaymentScannerTickOutcome}
    (h : scanBatch cfg source input lease targetBlock db = .ok (outcome, db')) :
    (targetBlock ≤ lease.lastScannedBlock ∧ db' = db
        ∧ outcome = .idle cfg.stream lease.lastScannedBlock targetBlock)
      ∨ lease.lastScannedBlock < targetBlock ∧ ∃ matched records,
        matchRange cfg source db input.newId (lease.lastScannedBlock + 1)
            (cfg.toBlock (lease.lastScannedBlock + 1) targetBlock) = .ok matched
          ∧ commitScannedBatch db input.now (tickBatch cfg lease
            (cfg.toBlock (lease.lastScannedBlock + 1) targetBlock) matched) = .ok (records, db') := by
  unfold scanBatch at h
  by_cases hidle : targetBlock ≤ lease.lastScannedBlock
  · rw [if_pos hidle] at h
    obtain ⟨rfl, rfl⟩ := Prod.mk.inj (Except.ok.inj h)
    exact Or.inl ⟨hidle, rfl, rfl⟩
  · rw [if_neg hidle] at h
    obtain ⟨matched, hmatched, h⟩ := Except.bind_eq_ok.mp h
    obtain ⟨⟨records, db₁⟩, hcommit, h⟩ := Except.bind_eq_ok.mp h
    obtain ⟨-, rfl⟩ := Prod.mk.inj (Except.pure_eq_ok.mp h)
    exact Or.inr ⟨Nat.lt_of_not_le hidle, matched, records, Except.mapError_eq_ok.mp hmatched,
      Except.mapError_eq_ok.mp hcommit⟩

/-- Under its lease a tick swept, or it scanned a database the sweep left alone. -/
theorem underLease_eq_ok {lease : ScanCursorLease} {outcome : PaymentScannerTickOutcome}
    (h : underLease cfg source input lease db = .ok (outcome, db')) :
    ∃ head, source.latestHead = .ok head
      ∧ (sweepConfirmations cfg source input db = .ok (some outcome, db')
        ∨ sweepConfirmations cfg source input db = .ok (none, db)
          ∧ scanBatch cfg source input lease head.number db = .ok (outcome, db')) := by
  unfold underLease at h
  obtain ⟨head, hhead, h⟩ := Except.bind_eq_ok.mp h
  obtain ⟨⟨swept, db₁⟩, hsweep, h⟩ := Except.bind_eq_ok.mp h
  refine ⟨head, Except.mapError_eq_ok.mp hhead, ?_⟩
  cases swept with
  | some outcome' =>
    obtain ⟨rfl, rfl⟩ := Prod.mk.inj (Except.pure_eq_ok.mp h)
    exact Or.inl hsweep
  | none =>
    have hsame := sweepConfirmations_none hsweep
    rw [hsame] at hsweep h
    exact Or.inr ⟨hsweep, h⟩

/-- **What a tick does to the database**: nothing, or a claim, after which it may
confirm payments or commit a scan. -/
inductive TickMove (cfg : PaymentScannerConfig) (source : ChainSource) (input : TickInput)
    (db : PaymentDb) : PaymentDb → Prop
  | untouched : TickMove cfg source input db db
  | claimed {lease : ScanCursorLease} {leaseUntil : Timestamp} {db₁ : PaymentDb}
      (hclaim : claimScanRange db input.now cfg.workerId cfg.stream leaseUntil
        = .ok (some lease, db₁)) : TickMove cfg source input db db₁
  | swept {lease : ScanCursorLease} {leaseUntil : Timestamp} {db₁ db₂ : PaymentDb}
      {paymentIds : List Uuid} {head : ChainBlockRef} {records : List PaymentRecord}
      (hclaim : claimScanRange db input.now cfg.workerId cfg.stream leaseUntil
        = .ok (some lease, db₁))
      (hconfirm : confirmObservedPayments db₁ input.now ⟨cfg.stream, paymentIds, head⟩
        = .ok (records, db₂)) : TickMove cfg source input db db₂
  | committed {lease : ScanCursorLease} {leaseUntil : Timestamp} {db₁ db₂ : PaymentDb}
      {head : ChainBlockRef} {matched : List MatchedPaymentInput} {records : List PaymentRecord}
      (hclaim : claimScanRange db input.now cfg.workerId cfg.stream leaseUntil
        = .ok (some lease, db₁))
      (hhead : source.latestHead = .ok head)
      (hmatch : matchRange cfg source db₁ input.newId (lease.lastScannedBlock + 1)
        (cfg.toBlock (lease.lastScannedBlock + 1) head.number) = .ok matched)
      (hcommit : commitScannedBatch db₁ input.now (tickBatch cfg lease
        (cfg.toBlock (lease.lastScannedBlock + 1) head.number) matched) = .ok (records, db₂)) :
      TickMove cfg source input db db₂

/-- A claim for a tick is a claim of its cursor. -/
theorem claimForTick_eq_ok {answer : Option ScanCursorLease}
    (h : claimForTick cfg input db = .ok (answer, db')) :
    claimScanRange db input.now cfg.workerId cfg.stream (input.clockNow + cfg.leaseDuration)
      = .ok (answer, db') := by
  unfold claimForTick at h
  obtain ⟨_, -, h⟩ := Except.bind_eq_ok.mp h
  obtain ⟨-, h⟩ := ensure_bind_eq_ok.mp h
  exact Except.mapError_eq_ok.mp h

theorem tickMove_of_tick : TickMove cfg source input db (tick cfg source input db).1 := by
  unfold tick
  cases hclaim : claimForTick cfg input db with
  | error e => exact .untouched
  | ok answer =>
    obtain ⟨lease, db₁⟩ := answer
    have hclaim' := claimForTick_eq_ok hclaim
    cases lease with
    | none =>
      rcases claimScanRange_eq_ok hclaim' with ⟨-, rfl⟩ | ⟨c, -, hnone, -⟩
      · exact .untouched
      · cases hnone
    | some lease =>
      dsimp only
      cases hunder : underLease cfg source input lease db₁ with
      | error e => exact .claimed hclaim'
      | ok result =>
        obtain ⟨outcome, db₂⟩ := result
        obtain ⟨head, hhead, hsweep | ⟨-, hscan⟩⟩ := underLease_eq_ok hunder
        · obtain ⟨head', paymentIds, records, -, -, hconfirm, -⟩ := sweepConfirmations_eq_ok hsweep
          exact .swept hclaim' hconfirm
        · rcases scanBatch_eq_ok hscan with ⟨-, rfl, -⟩ | ⟨-, matched, records, hmatch, hcommit⟩
          · exact .claimed hclaim'
          · exact .committed hclaim' hhead hmatch hcommit

end
