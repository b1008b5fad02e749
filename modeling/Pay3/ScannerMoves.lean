import Pay3.ScannerSystem

/-!
# What a step of the scanner system can do

Most steps leave the database alone. `ScannerMove` and `VerifyMove` list the
ones that do not, each with the transaction it ran, and `Move` does the same
for the whole system; `move_of_step` says that every step is such a move, and
every invariant is proved over these cases.

The position of a cursor, its last scanned block and its epoch, is moved by
two transactions only: a committed batch and a rewind.
-/

/-! ## Positions of cursors -/

namespace PaymentDb

/-- **The position of a cursor.** -/
def position (db : PaymentDb) (stream : StreamId) : Option ScanCursorState :=
  (db.cursor? stream).map (fun c => ⟨c.lastScannedBlock, c.seenKvReorgEpoch⟩)

@[simp] theorem recomputed_cursor? (db : PaymentDb) (now : Timestamp) (orderIds : List Uuid)
    (stream : StreamId) : (db.recomputed now orderIds).cursor? stream = db.cursor? stream := rfl

/-- An update of one cursor is seen by the lookups of its stream. -/
theorem cursor?_updateCursor {db : PaymentDb} {f : ChainCursor → ChainCursor}
    (hf : ∀ c, (f c).stream = c.stream) (stream σ : StreamId) :
    (db.updateCursor stream f).cursor? σ
      = (db.cursor? σ).map (fun c => if c.stream = stream then f c else c) := by
  unfold cursor? updateCursor
  rw [find?_updateWhere hf]
  refine congrArg (fun g => Option.map g _) (funext fun c => ?_)
  by_cases h : c.stream = stream <;> simp [h]

/-- The cursor of another stream is not touched. -/
theorem position_updateCursor_of_ne {db : PaymentDb} {f : ChainCursor → ChainCursor}
    (hf : ∀ c, (f c).stream = c.stream) {stream σ : StreamId} (hne : σ ≠ stream) :
    (db.updateCursor stream f).position σ = db.position σ := by
  unfold position
  rw [cursor?_updateCursor hf]
  cases hc : db.cursor? σ with
  | none => rfl
  | some c =>
    have hstream : c.stream = σ := (mem_of_find?_key hc).2
    rw [Option.map_some, if_neg (fun h => hne (hstream.symm.trans h))]

/-- The cursor of the stream itself is. -/
theorem cursor?_updateCursor_self {db : PaymentDb} {f : ChainCursor → ChainCursor}
    (hf : ∀ c, (f c).stream = c.stream) {stream : StreamId} {c : ChainCursor}
    (hc : db.cursor? stream = some c) : (db.updateCursor stream f).cursor? stream = some (f c) := by
  have hstream : c.stream = stream := (mem_of_find?_key hc).2
  rw [cursor?_updateCursor hf, hc, Option.map_some, if_pos hstream]

end PaymentDb

/-- Upserts leave the cursors alone. -/
theorem cursors_of_upserts {db db' : PaymentDb} {inputs : List (StreamId × MatchedPaymentInput)}
    {records : List PaymentRecord} (h : upsertMatchedPayments db inputs = .ok (records, db')) :
    db'.cursors = db.cursors := by
  rw [upsertMatchedPayments_frame h]

/-- A claim moves no cursor. -/
theorem position_of_claim {db db' : PaymentDb} {now leaseUntil : Timestamp} {workerId : String}
    {stream : StreamId} {answer : Option ScanCursorLease}
    (h : claimScanRange db now workerId stream leaseUntil = .ok (answer, db')) (σ : StreamId) :
    db'.position σ = db.position σ := by
  obtain ⟨-, rfl⟩ | ⟨c, hc, -, rfl⟩ := claimScanRange_eq_ok h
  · rfl
  · by_cases hσ : σ = stream
    · subst hσ
      unfold PaymentDb.position
      rw [PaymentDb.cursor?_updateCursor_self (ChainCursor.leased_stream workerId leaseUntil) hc, hc]
      rfl
    · exact PaymentDb.position_updateCursor_of_ne (ChainCursor.leased_stream workerId leaseUntil) hσ

/-- A confirmation moves no cursor. -/
theorem position_of_confirm {db db' : PaymentDb} {now : Timestamp}
    {batch : ConfirmObservedPaymentsBatch} {records : List PaymentRecord}
    (h : confirmObservedPayments db now batch = .ok (records, db')) (σ : StreamId) :
    db'.position σ = db.position σ := by
  obtain ⟨_, -, -, rfl⟩ := confirmObservedPayments_eq_ok h
  rfl

/-- A recorded verification moves no cursor. -/
theorem position_of_record {db db' : PaymentDb} {now : Timestamp} {orderId : Uuid}
    {matched : List MatchedPaymentInput} {records : List PaymentRecord}
    (h : recordVerifiedPayments db now orderId matched = .ok (records, db')) (σ : StreamId) :
    db'.position σ = db.position σ := by
  obtain ⟨-, written, db₁, hup, -, rfl⟩ := recordVerifiedPayments_eq_ok h
  unfold PaymentDb.position PaymentDb.cursor?
  rw [PaymentDb.recomputed_cursors, cursors_of_upserts hup]

/-- **A committed batch moves the cursor from where it expected it** to the end
of its range, and no other cursor. -/
theorem position_of_commit {db db' : PaymentDb} {now : Timestamp} {batch : CommitScannedBatch}
    {records : List PaymentRecord} (h : commitScannedBatch db now batch = .ok (records, db')) :
    batch.expectedLastScannedBlock ≤ batch.completeToBlock
      ∧ db.position batch.stream
        = some ⟨batch.expectedLastScannedBlock, batch.expectedSeenKvReorgEpoch⟩
      ∧ db'.position batch.stream
        = some ⟨batch.completeToBlock, batch.expectedSeenKvReorgEpoch⟩
      ∧ ∀ σ, σ ≠ batch.stream → db'.position σ = db.position σ := by
  obtain ⟨c, db₁, hle, hc, -, hlast, hepoch, hup, -, rfl⟩ := commitScannedBatch_eq_ok h
  have hcursors := cursors_of_upserts hup
  have hc₁ : db₁.cursor? batch.stream = some c := by
    unfold PaymentDb.cursor?
    rw [hcursors]
    exact hc
  refine ⟨hle, ?_, ?_, fun σ hσ => ?_⟩
  · unfold PaymentDb.position
    rw [hc, ← hlast, ← hepoch]
    rfl
  · unfold PaymentDb.position
    rw [PaymentDb.cursor?_updateCursor_self (ChainCursor.advanced_stream _) (by rw [PaymentDb.recomputed_cursor?, hc₁]),
      ← hepoch]
    rfl
  · rw [PaymentDb.position_updateCursor_of_ne (ChainCursor.advanced_stream _) hσ]
    unfold PaymentDb.position PaymentDb.cursor?
    rw [PaymentDb.recomputed_cursors, hcursors]

/-- **A rewind moves the cursor back and raises its epoch**, or changes nothing. -/
theorem position_of_reorg {db db' : PaymentDb} {now : Timestamp} {stream : StreamId}
    {epoch lastReorgFrom : ℕ}
    (h : handleKvReorgEpoch db now stream epoch lastReorgFrom = .ok db') :
    db' = db ∨ ∃ last seen, seen < epoch ∧ db.position stream = some ⟨last, seen⟩
      ∧ db'.position stream = some ⟨min last (lastReorgFrom - 1), epoch⟩
      ∧ ∀ σ, σ ≠ stream → db'.position σ = db.position σ := by
  obtain ⟨c, hc, ⟨-, rfl⟩ | ⟨hseen, orderIds, -, -, rfl⟩⟩ := handleKvReorgEpoch_eq_ok h
  · exact Or.inl rfl
  · refine Or.inr ⟨c.lastScannedBlock, c.seenKvReorgEpoch, hseen, ?_, ?_, fun σ hσ => ?_⟩
    · unfold PaymentDb.position
      rw [hc]
      rfl
    · have hc' : PaymentDb.cursor? { db with
          payments := updateWhere (orphanSelects stream lastReorgFrom) orphanRow db.payments }
          stream = some c := hc
      unfold PaymentDb.position
      rw [PaymentDb.recomputed_cursor?, PaymentDb.cursor?_updateCursor_self
        (ChainCursor.rewound_stream epoch lastReorgFrom) hc']
      rfl
    · exact PaymentDb.position_updateCursor_of_ne (ChainCursor.rewound_stream epoch lastReorgFrom) hσ

/-! ## Steps of a scanner -/

section scanner

variable (cfg : PaymentScannerConfig) (db : PaymentDb) (chain : CanonicalChain) (input : StepInput)

/-- **The moves of a scanner**: where it stood, the database it leaves, and where
it stands then. -/
inductive ScannerMove : ScannerPc → PaymentDb → ScannerPc → Prop
  /-- The tick ends, and has changed nothing in this step. -/
  | stop {pc : ScannerPc} {result : Option (Except PaymentScannerError PaymentScannerTickOutcome)}
      (hnot : committedScan pc (.waiting result) = none) : ScannerMove pc db (.waiting result)
  | claim {result : Option (Except PaymentScannerError PaymentScannerTickOutcome)}
      {lease : ScanCursorLease} {leaseUntil : Timestamp} {db' : PaymentDb}
      (h : claimScanRange db input.now cfg.workerId cfg.stream leaseUntil = .ok (some lease, db')) :
      ScannerMove (.waiting result) db' (.claimed lease)
  | target (lease : ScanCursorLease) :
      ScannerMove (.claimed lease) db (.targeted ⟨lease, chain.latestHead.number⟩)
  | noSweep (tick : Tick) : ScannerMove (.targeted tick) db (.scanning tick)
  | sweep (tick : Tick) {maxBlockNumber : ℕ}
      (h : maxConfirmableBlock chain.latestHead cfg.minConfirmations = some maxBlockNumber) :
      ScannerMove (.targeted tick) db (.sweeping tick chain.latestHead maxBlockNumber)
  | noCandidates (tick : Tick) (head : ChainBlockRef) (maxBlockNumber : ℕ) :
      ScannerMove (.sweeping tick head maxBlockNumber) db (.scanning tick)
  | candidates (tick : Tick) (head : ChainBlockRef) {maxBlockNumber : ℕ}
      {cs : List PaymentConfirmationCandidate}
      (h : observedPaymentConfirmationCandidates db cfg.stream maxBlockNumber
        cfg.confirmationSweepLimit = .ok cs) :
      ScannerMove (.sweeping tick head maxBlockNumber) db (.checking tick head cs cs [] [])
  | check (tick : Tick) (head : ChainBlockRef) (cs : List PaymentConfirmationCandidate)
      {c : PaymentConfirmationCandidate} (rest : List PaymentConfirmationCandidate)
      {blocks : List ChainBlockRef} (ids : List Uuid) {block : ChainBlockRef}
      (hblock : canonicalBlock chain blocks c.block.number = some block)
      (hhash : block.hash = c.block.hash) :
      ScannerMove (.checking tick head cs (c :: rest) blocks ids) db
        (.checking tick head cs rest (block :: blocks)
          (if c.block.hasConfirmations head cfg.minConfirmations then ids ++ [c.paymentId] else ids))
  | mismatch (tick : Tick) (head : ChainBlockRef) (cs : List PaymentConfirmationCandidate)
      {c : PaymentConfirmationCandidate} (rest : List PaymentConfirmationCandidate)
      {blocks : List ChainBlockRef} (ids : List Uuid) {block : ChainBlockRef}
      (hblock : canonicalBlock chain blocks c.block.number = some block)
      (hhash : block.hash ≠ c.block.hash) :
      ScannerMove (.checking tick head cs (c :: rest) blocks ids) db (.mismatched c.block.number)
  | noneChecked (tick : Tick) (head : ChainBlockRef) (cs : List PaymentConfirmationCandidate)
      (blocks : List ChainBlockRef) (ids : List Uuid) :
      ScannerMove (.checking tick head cs [] blocks ids) db (.scanning tick)
  | checked (tick : Tick) (head : ChainBlockRef) (cs : List PaymentConfirmationCandidate)
      (blocks : List ChainBlockRef) (ids : List Uuid) :
      ScannerMove (.checking tick head cs [] blocks ids) db (.confirming tick head cs ids)
  | confirm (tick : Tick) {head : ChainBlockRef} (cs : List PaymentConfirmationCandidate)
      {ids : List Uuid} {records : List PaymentRecord} {db' : PaymentDb} {pc' : ScannerPc}
      (h : confirmObservedPayments db input.now ⟨cfg.stream, ids, head⟩ = .ok (records, db'))
      (hpc : pc' = .scanning tick ∨ ∃ result, pc' = .waiting result) :
      ScannerMove (.confirming tick head cs ids) db' pc'
  | readEpoch (blockNumber : ℕ) :
      ScannerMove (.mismatched blockNumber) db (.healing blockNumber (nextEpoch cfg db))
  | heal {blockNumber epoch : ℕ} {db' : PaymentDb}
      {result : Option (Except PaymentScannerError PaymentScannerTickOutcome)}
      (h : handleKvReorgEpoch db input.now cfg.stream epoch blockNumber = .ok db') :
      ScannerMove (.healing blockNumber epoch) db' (.waiting result)
  | scan (tick : Tick) (pending : List ℕ)
      (hlt : tick.lease.lastScannedBlock < tick.targetBlock) :
      ScannerMove (.scanning tick) db (.fetching
        ⟨tick.lease, cfg.toBlock (tick.lease.lastScannedBlock + 1) tick.targetBlock, chain⟩ pending [])
  | header (scan : Scan) (pending pending' : List ℕ) (headers headers' : List ChainBlock) :
      ScannerMove (.fetching scan pending headers) db (.fetching scan pending' headers')
  | complete {scan : Scan} (pending : List ℕ) {headers : List ChainBlock} {logs : List TransferLog}
      (h : attachHeaders cfg.stream.chainId headers (scan.logs cfg.stream) = .ok logs) :
      ScannerMove (.fetching scan pending headers) db (.fetched scan logs)
  | readHead (scan : Scan) (logs : List TransferLog) :
      ScannerMove (.fetched scan logs) db (.matching scan logs chain.latestHead)
  | matched (scan : Scan) {logs : List TransferLog} (head : ChainBlockRef)
      {candidates : List PaymentWindowCandidate}
      (h : lookupPaymentWindowCandidates db cfg.stream
        (sortedSet (logs.map (fun log => log.toAddress))) = .ok candidates) :
      ScannerMove (.matching scan logs head) db (.committing scan head
        (matchTransferLogs cfg.stream cfg.minConfirmations logs candidates head input.newId))
  | commit {scan : Scan} (head : ChainBlockRef) {matched : List MatchedPaymentInput}
      {records : List PaymentRecord} {db' : PaymentDb}
      (h : commitScannedBatch db input.now (scan.batch cfg matched) = .ok (records, db')) :
      ScannerMove (.committing scan head matched) db' (.done (.committed cfg.stream scan.toBlock
        matched.length (recomputeOrderIds matched) records))

variable {cfg db chain input}

theorem beginTick_move {db' : PaymentDb} {pc' : ScannerPc}
    {result : Option (Except PaymentScannerError PaymentScannerTickOutcome)}
    (h : beginTick cfg db input = (db', pc')) :
    ScannerMove cfg db chain input (.waiting result) db' pc' := by
  unfold beginTick at h
  split at h
  · obtain ⟨rfl, rfl⟩ := Prod.mk.inj h
    exact .stop rfl
  · dsimp only at h
    split at h
    · obtain ⟨rfl, rfl⟩ := Prod.mk.inj h
      exact .stop rfl
    · split at h
      · obtain ⟨rfl, rfl⟩ := Prod.mk.inj h
        exact .stop rfl
      next db₁ hclaim =>
        obtain ⟨rfl, rfl⟩ := Prod.mk.inj h
        obtain ⟨-, rfl⟩ | ⟨c, -, hsome, -⟩ := claimScanRange_eq_ok hclaim
        · exact .stop rfl
        · cases hsome
      next lease db₁ hclaim =>
        obtain ⟨rfl, rfl⟩ := Prod.mk.inj h
        exact .claim hclaim

theorem beginSweep_move (tick : Tick) :
    ScannerMove cfg db chain input (.targeted tick) db (beginSweep cfg chain tick) := by
  unfold beginSweep
  split
  · exact .noSweep tick
  next maxBlockNumber hmax => exact .sweep tick hmax

theorem readCandidates_move (tick : Tick) (head : ChainBlockRef) (maxBlockNumber : ℕ) :
    ScannerMove cfg db chain input (.sweeping tick head maxBlockNumber) db
      (readCandidates cfg db tick head maxBlockNumber) := by
  unfold readCandidates
  split
  · exact .stop rfl
  · exact .noCandidates tick head maxBlockNumber
  next c cs h => exact .candidates tick head h

theorem checkCandidate_move (tick : Tick) (head : ChainBlockRef)
    (cs : List PaymentConfirmationCandidate) (c : PaymentConfirmationCandidate)
    (rest : List PaymentConfirmationCandidate) (blocks : List ChainBlockRef) (ids : List Uuid) :
    ScannerMove cfg db chain input (.checking tick head cs (c :: rest) blocks ids) db
      (checkCandidate cfg chain tick head cs c rest blocks ids) := by
  unfold checkCandidate
  split
  · exact .stop rfl
  next block hblock =>
    split
    next hne => exact .mismatch tick head cs rest ids hblock hne
    next heq => exact .check tick head cs rest ids hblock (not_ne_iff.mp heq)

theorem confirmChecked_move {db' : PaymentDb} {pc' : ScannerPc} {tick : Tick}
    {head : ChainBlockRef} (cs : List PaymentConfirmationCandidate) {ids : List Uuid}
    (h : confirmChecked cfg db input tick head ids = (db', pc')) :
    ScannerMove cfg db chain input (.confirming tick head cs ids) db' pc' := by
  unfold confirmChecked at h
  split at h
  · obtain ⟨rfl, rfl⟩ := Prod.mk.inj h
    exact .stop rfl
  next db₁ hc =>
    obtain ⟨rfl, rfl⟩ := Prod.mk.inj h
    exact .confirm tick cs hc (Or.inl rfl)
  next r rs db₁ hc =>
    obtain ⟨rfl, rfl⟩ := Prod.mk.inj h
    exact .confirm tick cs hc (Or.inr ⟨_, rfl⟩)

theorem healReorg_move {db' : PaymentDb} {pc' : ScannerPc} {blockNumber epoch : ℕ}
    (h : healReorg cfg db input blockNumber epoch = (db', pc')) :
    ScannerMove cfg db chain input (.healing blockNumber epoch) db' pc' := by
  unfold healReorg at h
  split at h
  · obtain ⟨rfl, rfl⟩ := Prod.mk.inj h
    exact .stop rfl
  next db₁ hr =>
    obtain ⟨rfl, rfl⟩ := Prod.mk.inj h
    exact .heal hr

theorem beginScan_move (tick : Tick) :
    ScannerMove cfg db chain input (.scanning tick) db (beginScan cfg chain tick) := by
  unfold beginScan
  split
  · exact .stop rfl
  next hlt =>
    split
    · exact .stop rfl
    · exact .scan tick _ (Nat.lt_of_not_le hlt)

theorem fetchHeader_move {scan : Scan} {pending : List ℕ} {headers : List ChainBlock}
    {pc' : ScannerPc} (h : fetchHeader cfg chain input scan pending headers = some pc') :
    ScannerMove cfg db chain input (.fetching scan pending headers) db pc' := by
  unfold fetchHeader at h
  split at h
  · split at h
    · obtain rfl := Option.some.inj h
      exact .stop rfl
    next logs hlogs =>
      obtain rfl := Option.some.inj h
      exact .complete pending hlogs
  · split at h
    · split at h
      · obtain rfl := Option.some.inj h
        exact .stop rfl
      · obtain rfl := Option.some.inj h
        exact .header scan pending _ headers _
    · cases h

theorem matchLogs_move (scan : Scan) (logs : List TransferLog) (head : ChainBlockRef) :
    ScannerMove cfg db chain input (.matching scan logs head) db
      (matchLogs cfg db input scan logs head) := by
  unfold matchLogs
  dsimp only
  split
  · exact .stop rfl
  · split
    · exact .stop rfl
    next candidates hlookup =>
      refine .matched scan head ?_
      split at hlookup
      next hempty =>
        unfold lookupPaymentWindowCandidates
        rw [if_pos hempty, Except.ok.inj hlookup]
      · unfold lookupBatch at hlookup
        obtain ⟨-, hlookup⟩ := ensure_bind_eq_ok.mp hlookup
        obtain ⟨-, hlookup⟩ := ensure_bind_eq_ok.mp hlookup
        revert hlookup
        cases lookupPaymentWindowCandidates db cfg.stream
            (sortedSet (logs.map (fun log => log.toAddress))) with
        | error e => exact fun h => by cases h
        | ok cs => exact fun h => by rw [Except.ok.inj h]

theorem commitScan_move {db' : PaymentDb} {pc' : ScannerPc} {scan : Scan} (head : ChainBlockRef)
    {matched : List MatchedPaymentInput} (h : commitScan cfg db input scan matched = (db', pc')) :
    ScannerMove cfg db chain input (.committing scan head matched) db' pc' := by
  unfold commitScan at h
  split at h
  · obtain ⟨rfl, rfl⟩ := Prod.mk.inj h
    exact .stop rfl
  next records db₁ hc =>
    obtain ⟨rfl, rfl⟩ := Prod.mk.inj h
    exact .commit head hc

/-- **Every step of a scanner is one of its moves.** -/
theorem scannerStep_move {db' : PaymentDb} {pc pc' : ScannerPc}
    (h : scannerStep cfg db chain input pc = some (db', pc')) :
    ScannerMove cfg db chain input pc db' pc' := by
  cases pc with
  | waiting result => exact beginTick_move (Option.some.inj h)
  | claimed lease =>
    obtain ⟨rfl, rfl⟩ := Prod.mk.inj (Option.some.inj h)
    exact .target lease
  | targeted tick =>
    obtain ⟨rfl, rfl⟩ := Prod.mk.inj (Option.some.inj h)
    exact beginSweep_move tick
  | sweeping tick head maxBlockNumber =>
    obtain ⟨rfl, rfl⟩ := Prod.mk.inj (Option.some.inj h)
    exact readCandidates_move tick head maxBlockNumber
  | checking tick head cs todo blocks ids =>
    cases todo with
    | nil =>
      obtain ⟨rfl, rfl⟩ := Prod.mk.inj (Option.some.inj h)
      split
      · exact .noneChecked tick head cs blocks ids
      · exact .checked tick head cs blocks ids
    | cons c rest =>
      obtain ⟨rfl, rfl⟩ := Prod.mk.inj (Option.some.inj h)
      exact checkCandidate_move tick head cs c rest blocks ids
  | confirming tick head cs ids => exact confirmChecked_move cs (Option.some.inj h)
  | mismatched blockNumber =>
    obtain ⟨rfl, rfl⟩ := Prod.mk.inj (Option.some.inj h)
    exact .readEpoch blockNumber
  | healing blockNumber epoch => exact healReorg_move (Option.some.inj h)
  | scanning tick =>
    obtain ⟨rfl, rfl⟩ := Prod.mk.inj (Option.some.inj h)
    exact beginScan_move tick
  | fetching scan pending headers =>
    obtain ⟨pc₁, hf, hpc⟩ := Option.map_eq_some_iff.mp h
    obtain ⟨rfl, rfl⟩ := Prod.mk.inj hpc
    exact fetchHeader_move hf
  | fetched scan logs =>
    obtain ⟨rfl, rfl⟩ := Prod.mk.inj (Option.some.inj h)
    exact .readHead scan logs
  | matching scan logs head =>
    obtain ⟨rfl, rfl⟩ := Prod.mk.inj (Option.some.inj h)
    exact matchLogs_move scan logs head
  | committing scan head matched => exact commitScan_move head (Option.some.inj h)

end scanner

/-! ## Steps of a verification -/

section verifier

variable (cfg : ManualVerifyConfig) (db : PaymentDb) (chain : CanonicalChain)

/-- **The moves of a verification.** -/
inductive VerifyMove : VerifyPc → PaymentDb → VerifyPc → Prop
  | stop (pc : VerifyPc) : VerifyMove pc db .idle
  | view (orderId : Uuid) (candidate : PaymentWindowCandidate) :
      VerifyMove .idle db (.viewed orderId candidate)
  | readHead (orderId : Uuid) (candidate : PaymentWindowCandidate) :
      VerifyMove (.viewed orderId candidate) db (.headed orderId candidate chain.latestHead)
  | readLogs (orderId : Uuid) (candidate : PaymentWindowCandidate) (head : ChainBlockRef)
      (pending : List ℕ) :
      VerifyMove (.headed orderId candidate head) db
        (.fetching ⟨orderId, candidate, head, chain⟩ pending [])
  | header (v : Verification) (pending pending' : List ℕ) (headers headers' : List ChainBlock) :
      VerifyMove (.fetching v pending headers) db (.fetching v pending' headers')
  | matched {v : Verification} (pending : List ℕ) {headers : List ChainBlock}
      {logs : List TransferLog} (newId : ℕ → Uuid) {ms : List MatchedPaymentInput}
      (h : attachHeaders v.candidate.chainId headers v.logs = .ok logs)
      (hms : ms = matchTransferLogs v.candidate.stream cfg.minConfirmations logs [v.candidate]
        v.head newId) :
      VerifyMove (.fetching v pending headers) db (.checking v ms ms)
  | check (v : Verification) (ms : List MatchedPaymentInput) (p : MatchedPaymentInput)
      (rest : List MatchedPaymentInput) :
      VerifyMove (.checking v ms (p :: rest)) db (.checking v ms rest)
  | record {v : Verification} {ms : List MatchedPaymentInput} {now : Timestamp}
      {records : List PaymentRecord} {db' : PaymentDb}
      (h : recordVerifiedPayments db now v.orderId ms = .ok (records, db')) :
      VerifyMove (.checking v ms []) db' .idle

variable {cfg db chain}

theorem matchVerified_move (input : StepInput) (v : Verification) (pending : List ℕ)
    (headers : List ChainBlock) :
    VerifyMove cfg db chain (.fetching v pending headers) db
      (matchVerified cfg input v headers) := by
  unfold matchVerified
  split
  · exact .stop _
  next logs hlogs =>
    split
    · exact .stop _
    · exact .matched pending input.newId hlogs rfl

/-- **Every step of a verification is one of its moves.** -/
theorem verifyStep_move {db' : PaymentDb} {pc pc' : VerifyPc} {a : VerifyAction}
    (h : verifyStep cfg db chain pc a = some (db', pc')) : VerifyMove cfg db chain pc db' pc' := by
  unfold verifyStep at h
  split at h
  · split at h
    · obtain ⟨rfl, rfl⟩ := Prod.mk.inj (Option.some.inj h)
      exact .stop _
    · split at h
      · obtain ⟨rfl, rfl⟩ := Prod.mk.inj (Option.some.inj h)
        exact .view _ _
      · obtain ⟨rfl, rfl⟩ := Prod.mk.inj (Option.some.inj h)
        exact .stop _
  · split at h
    · obtain ⟨rfl, rfl⟩ := Prod.mk.inj (Option.some.inj h)
      exact .stop _
    · obtain ⟨rfl, rfl⟩ := Prod.mk.inj (Option.some.inj h)
      exact .readHead _ _
  · obtain ⟨rfl, rfl⟩ := Prod.mk.inj (Option.some.inj h)
    exact .readLogs _ _ _ _
  · split at h
    · obtain ⟨rfl, rfl⟩ := Prod.mk.inj (Option.some.inj h)
      exact matchVerified_move _ _ _ _
    · split at h
      · split at h
        · obtain ⟨rfl, rfl⟩ := Prod.mk.inj (Option.some.inj h)
          exact .stop _
        · obtain ⟨rfl, rfl⟩ := Prod.mk.inj (Option.some.inj h)
          exact .header _ _ _ _ _
      · cases h
  · split at h
    · obtain ⟨rfl, rfl⟩ := Prod.mk.inj (Option.some.inj h)
      exact .stop _
    · split at h
      · obtain ⟨rfl, rfl⟩ := Prod.mk.inj (Option.some.inj h)
        exact .stop _
      · obtain ⟨rfl, rfl⟩ := Prod.mk.inj (Option.some.inj h)
        exact .check _ _ _ _
  · split at h
    · obtain ⟨rfl, rfl⟩ := Prod.mk.inj (Option.some.inj h)
      exact .stop _
    next records db₁ hr =>
      obtain ⟨rfl, rfl⟩ := Prod.mk.inj (Option.some.inj h)
      exact .record hr
  · cases h

end verifier

/-! ## Steps of the system -/

namespace ScannerState

/-- The state after a scanner has moved. -/
def afterScanner (s : ScannerState) (w : ℕ) (db' : PaymentDb) (pc' : ScannerPc) : ScannerState :=
  { s with
    db := db'
    pc := Function.update s.pc w pc'
    watched := s.watchedAfter (.scanner w) (s.pc w).isWaiting }

@[simp] theorem afterScanner_pc_self (s : ScannerState) (w : ℕ) (db' : PaymentDb)
    (pc' : ScannerPc) : (s.afterScanner w db' pc').pc w = pc' := by
  simp [afterScanner]

theorem afterScanner_pc_of_ne (s : ScannerState) {w w' : ℕ} (hw : w' ≠ w) (db' : PaymentDb)
    (pc' : ScannerPc) : (s.afterScanner w db' pc').pc w' = s.pc w' := by
  simp [afterScanner, hw]

/-- The state after a verification has moved. -/
def afterVerifier (s : ScannerState) (v : ℕ) (db' : PaymentDb) (pc' : VerifyPc) : ScannerState :=
  { s with
    db := db'
    verifier := Function.update s.verifier v pc'
    watched := s.watchedAfter (.verifier v) (s.verifier v).isIdle }

/-- **The moves of the system.** -/
inductive Move (sys : Deployment) (s : ScannerState) : ScannerAction → ScannerState → Prop
  | newChain {chain : CanonicalChain} (h : sys.Knows chain) :
      Move sys s (.newChain chain)
        { s with chain := chain, watched := fun who => chain :: s.watched who }
  | scanner {w : ℕ} {input : StepInput} {db' : PaymentDb} {pc' : ScannerPc}
      (h : ScannerMove (sys.scanner w) s.db s.chain input (s.pc w) db' pc') :
      Move sys s (.scanner w input) (s.afterScanner w db' pc')
  | abort (w : ℕ) :
      Move sys s (.abort w) { s with pc := Function.update s.pc w (.waiting none) }
  | verifier {v : ℕ} {a : VerifyAction} {db' : PaymentDb} {pc' : VerifyPc}
      (h : VerifyMove sys.verify s.db s.chain (s.verifier v) db' pc') :
      Move sys s (.verifier v a) (s.afterVerifier v db' pc')
  | abortVerifier (v : ℕ) :
      Move sys s (.abortVerifier v) { s with verifier := Function.update s.verifier v .idle }
  | rewindRefused (stream : StreamId) (epoch lastReorgFrom : ℕ) (now : Timestamp) :
      Move sys s (.rewind stream epoch lastReorgFrom now) s
  | rewind {stream : StreamId} {epoch lastReorgFrom : ℕ} {now : Timestamp} {db' : PaymentDb}
      (h : handleKvReorgEpoch s.db now stream epoch lastReorgFrom = .ok db') :
      Move sys s (.rewind stream epoch lastReorgFrom now) { s with db := db' }

/-- **Every step of the system is one of its moves.** -/
theorem move_of_step {sys : Deployment} {s t : ScannerState} {a : ScannerAction}
    (h : step sys s a = some t) : Move sys s a t := by
  unfold step at h
  cases a with
  | newChain chain =>
    dsimp only at h
    split at h
    next hk =>
      obtain rfl := Option.some.inj h
      exact .newChain hk
    · cases h
  | scanner w input =>
    obtain ⟨⟨db', pc'⟩, hr, rfl⟩ := Option.map_eq_some_iff.mp h
    exact .scanner (scannerStep_move hr)
  | abort w =>
    obtain rfl := Option.some.inj h
    exact .abort w
  | verifier v a =>
    obtain ⟨⟨db', pc'⟩, hr, rfl⟩ := Option.map_eq_some_iff.mp h
    exact .verifier (verifyStep_move hr)
  | abortVerifier v =>
    obtain rfl := Option.some.inj h
    exact .abortVerifier v
  | rewind stream epoch lastReorgFrom now =>
    dsimp only at h
    split at h
    · obtain rfl := Option.some.inj h
      exact .rewindRefused stream epoch lastReorgFrom now
    next db' hr =>
      obtain rfl := Option.some.inj h
      exact .rewind hr

/-- The initial states: nobody is at work. -/
structure Initial (s : ScannerState) : Prop where
  waiting : ∀ w, s.pc w = .waiting none
  idle : ∀ v, s.verifier v = .idle

end ScannerState

theorem SmallScanner.initial_initial (chain : CanonicalChain) :
    (SmallScanner.initial chain).Initial :=
  ⟨fun _ => rfl, fun _ => rfl⟩

/-! ## What a scan holds is what it read -/

/-- The logs a scan has completed are the logs it read. -/
def LogsOf (cfg : PaymentScannerConfig) (scan : Scan) (logs : List TransferLog) : Prop :=
  (∀ c ∈ logs, c.toParsedTransferLog ∈ scan.logs cfg.stream ∧ c.chainId = cfg.stream.chainId)
    ∧ ∀ log ∈ scan.logs cfg.stream, ∃ c ∈ logs, c.toParsedTransferLog = log
      ∧ c.chainId = cfg.stream.chainId

/-- **A scanner holds what it read**: its logs, and payments matched from them. -/
def ScannerPc.Faithful (cfg : PaymentScannerConfig) : ScannerPc → Prop
  | .fetched scan logs => LogsOf cfg scan logs
  | .matching scan logs _ => LogsOf cfg scan logs
  | .committing scan head matched => ∃ logs candidates newId, LogsOf cfg scan logs
      ∧ matched = matchTransferLogs cfg.stream cfg.minConfirmations logs candidates head newId
  | _ => True

theorem ScannerMove.faithful {cfg : PaymentScannerConfig} {db db' : PaymentDb}
    {chain : CanonicalChain} {input : StepInput} {pc pc' : ScannerPc}
    (h : ScannerMove cfg db chain input pc db' pc') (hpc : pc.Faithful cfg) : pc'.Faithful cfg := by
  cases h with
  | complete pending hlogs => exact attachHeaders_eq_ok hlogs
  | readHead scan logs => exact hpc
  | matched scan head hlookup => exact ⟨_, _, _, hpc, rfl⟩
  | confirm tick cs _ hpc' =>
    rcases hpc' with rfl | ⟨result, rfl⟩
    · trivial
    · trivial
  | _ => trivial

namespace ScannerState

/-- In every state reached, every scanner holds what it read. -/
theorem faithful_of_run {sys : Deployment} {s u : ScannerState}
    {as : List ScannerAction} (hinit : s.Initial)
    (hr : runSteps (step sys) s as = some u) :
    ∀ w, (u.pc w).Faithful (sys.scanner w) := by
  refine inv_of_run (I := fun s => ∀ w, (s.pc w).Faithful (sys.scanner w)) (P := fun _ _ => True)
    ?_ (fun w => by rw [hinit.waiting w]; trivial) (stepsMeet_of_forall (fun _ _ => trivial) s as) hr
  intro s a t hs _ hst w
  cases move_of_step hst with
  | @scanner w' input db' pc' hmove =>
    by_cases hw : w = w'
    · subst hw
      rw [afterScanner_pc_self]
      exact hmove.faithful (hs w)
    · rw [afterScanner_pc_of_ne s hw]
      exact hs w
  | abort w' =>
    show ScannerPc.Faithful _ (Function.update s.pc w' _ w)
    by_cases hw : w = w'
    · subst hw
      rw [Function.update_self]
      trivial
    · rw [Function.update_of_ne hw]
      exact hs w
  | _ => exact hs w

end ScannerState

/-- The payments of a scan lie in its range, in the blocks of the chain it
read. -/
theorem mem_matched_of_faithful {cfg : PaymentScannerConfig} {scan : Scan} {head : ChainBlockRef}
    {matched : List MatchedPaymentInput}
    (h : (ScannerPc.committing scan head matched).Faithful cfg) {m : MatchedPaymentInput}
    (hm : m ∈ matched) :
    scan.source.IsCanonical m.block ∧ scan.lease.lastScannedBlock < m.blockNumber
      ∧ m.blockNumber ≤ scan.toBlock
      ∧ (m.chainStatus = .confirmed → m.block.hasConfirmations head cfg.minConfirmations = true) := by
  obtain ⟨logs, candidates, newId, hlogs, rfl⟩ := h
  obtain ⟨log, hlog, c, -, id, rfl, -, -⟩ := mem_matchTransferLogs hm
  have hread := (hlogs.1 log hlog).1
  obtain ⟨b, -, hfrom, hto, t, -, -, -, heq⟩ := CanonicalChain.mem_getLogs.mp hread
  have hnum : log.blockNumber = b.number := congrArg ParsedTransferLog.blockNumber heq
  refine ⟨CanonicalChain.isCanonical_of_mem_getLogs hread, ?_, ?_, hasConfirmations_of_matched⟩
  · show scan.lease.lastScannedBlock < log.blockNumber
    rw [hnum]
    exact hfrom
  · show log.blockNumber ≤ scan.toBlock
    rw [hnum]
    exact hto
