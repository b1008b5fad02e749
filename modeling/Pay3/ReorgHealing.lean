import Pay3.ScanCompleteness

/-!
# What reorganisations the scanner heals

A reorganisation is noticed in one way only: a sweep compares the block of an
observed payment with the chain, and on a difference the payments from that
block on are orphaned and the cursor is taken back below it. A scanned block
that no longer agrees with the chain is therefore found again exactly when it,
or a disagreeing block below it, holds an observed payment. When the lowest
disagreeing block does, everything above it is scanned anew; when it does not,
nothing ever looks at it again.

So the condition under which the loop heals is that the lowest disagreeing
block is always noticed (`LowestNoticed`), at the three moments at which it can
change: the chain moves, payments are confirmed, payments are stored. The
rewind itself keeps it.
-/

/-! ## The lowest failure -/

/-- **The lowest number of `(lo, hi]` that disagrees is noticed.** -/
def LowestNoticed (lo hi : ℕ) (agrees noticed : ℕ → Prop) : Prop :=
  ∀ n ≤ hi, lo < n → ¬ agrees n → (∀ k < n, lo < k → agrees k) → noticed n

instance (lo hi : ℕ) (agrees noticed : ℕ → Prop) [DecidablePred agrees] [DecidablePred noticed] :
    Decidable (LowestNoticed lo hi agrees noticed) :=
  inferInstanceAs (Decidable (∀ n ≤ hi, lo < n → ¬ agrees n → (∀ k < n, lo < k → agrees k) →
    noticed n))

namespace LowestNoticed

variable {lo hi hi' : ℕ} {agrees agrees' noticed noticed' : ℕ → Prop}

/-- Where nothing is noticed, everything agrees. -/
theorem forall_agrees (h : LowestNoticed lo hi agrees noticed) (hno : ∀ n ≤ hi, ¬ noticed n) :
    ∀ n ≤ hi, lo < n → agrees n := by
  intro n
  induction n using Nat.strong_induction_on with
  | _ n ih =>
    intro hn hlo
    by_contra hnot
    exact hno n hn (h n hn hlo hnot (fun k hk hlok => ih k hk (hk.le.trans hn) hlok))

/-- A lower bound, the same agreement below it and at least what was noticed. -/
theorem mono (h : LowestNoticed lo hi agrees noticed) (hle : hi' ≤ hi)
    (hagree : ∀ n ≤ hi', lo < n → (agrees' n ↔ agrees n))
    (hnoticed : ∀ n ≤ hi', lo < n → noticed n → noticed' n) :
    LowestNoticed lo hi' agrees' noticed' := by
  intro n hn hlo hnot hlow
  refine hnoticed n hn hlo (h n (hn.trans hle) hlo (fun ha => hnot ((hagree n hn hlo).mpr ha)) ?_)
  exact fun k hk hlok => (hagree k (hk.le.trans hn) hlok).mp (hlow k hk hlok)

end LowestNoticed

/-! ## Rows of a block -/

/-- The payments of a block that are not orphaned stand in the other rows too. -/
def LiveWithin (stream : StreamId) (n : ℕ) (rows rows' : List PaymentRecord) : Prop :=
  ∀ p ∈ rows, p.isLiveOf stream = true → p.blockNumber = n →
    ∃ q ∈ rows', q.isLiveOf stream = true ∧ q.log = p.log

/-- Agreement with a block depends on the payments of that block. -/
theorem agreesAt_iff {db : PaymentDb} {stream : StreamId} {chain : CanonicalChain} {n : ℕ}
    {rows rows' : List PaymentRecord} (h : LiveWithin stream n rows rows')
    (h' : LiveWithin stream n rows' rows) :
    AgreesAt stream rows' (db.due stream chain n) n
      ↔ AgreesAt stream rows (db.due stream chain n) n := by
  have hone : ∀ {r r' : List PaymentRecord}, LiveWithin stream n r r' → LiveWithin stream n r' r →
      AgreesAt stream r (db.due stream chain n) n →
      AgreesAt stream r' (db.due stream chain n) n := by
    intro r r' hw hw' hagree
    constructor
    · intro log hlog
      obtain ⟨p, hp, hlive, rfl⟩ := hagree.1 log hlog
      obtain ⟨b, -, hbn, t, -, -, -, heq⟩ := PaymentDb.mem_due.mp hlog
      exact hw p hp hlive ((congrArg ParsedTransferLog.blockNumber heq).trans hbn)
    · intro q hq hlive hn
      obtain ⟨p, hp, hplive, hlog⟩ := hw' q hq hlive hn
      have hpn : p.blockNumber = n := (congrArg ParsedTransferLog.blockNumber hlog).trans hn
      exact hlog ▸ hagree.2 p hp hplive hpn
  exact ⟨hone h' h, hone h h'⟩

/-- **A payment of the block is observed, and its block has been replaced.** -/
def ReplacedAt (stream : StreamId) (chain : CanonicalChain) (rows : List PaymentRecord) (n : ℕ) :
    Prop :=
  ∃ p ∈ rows, p.isObservedOf stream = true ∧ p.blockNumber = n ∧ ¬ chain.IsCanonical p.block

instance (stream : StreamId) (chain : CanonicalChain) (rows : List PaymentRecord) (n : ℕ) :
    Decidable (ReplacedAt stream chain rows n) :=
  inferInstanceAs (Decidable (∃ p ∈ rows, _))

/-- Two lists with the same logs. -/
def SameLogs (logs logs' : List ParsedTransferLog) : Prop :=
  (∀ log ∈ logs, log ∈ logs') ∧ ∀ log ∈ logs', log ∈ logs

instance (logs logs' : List ParsedTransferLog) : Decidable (SameLogs logs logs') :=
  inferInstanceAs (Decidable ((∀ log ∈ logs, _) ∧ ∀ log ∈ logs', _))

/-- Rows that agree with one list of transfers agree with another when the two
have the same transfers, and only then. -/
theorem AgreesAt.iff_sameLogs {stream : StreamId} {rows : List PaymentRecord}
    {db : PaymentDb} {chain chain' : CanonicalChain} {n : ℕ}
    (h : AgreesAt stream rows (db.due stream chain n) n) :
    AgreesAt stream rows (db.due stream chain' n) n
      ↔ SameLogs (db.due stream chain n) (db.due stream chain' n) := by
  have hnumber : ∀ {c : CanonicalChain} {p : PaymentRecord}, p.log ∈ db.due stream c n →
      p.blockNumber = n := by
    intro c p hp
    obtain ⟨b, -, hbn, t, -, -, -, heq⟩ := PaymentDb.mem_due.mp hp
    exact (congrArg ParsedTransferLog.blockNumber heq).trans hbn
  constructor
  · intro h'
    constructor
    · intro log hlog
      obtain ⟨p, hp, hlive, rfl⟩ := h.1 log hlog
      exact h'.2 p hp hlive (hnumber hlog)
    · intro log hlog
      obtain ⟨p, hp, hlive, rfl⟩ := h'.1 log hlog
      exact h.2 p hp hlive (hnumber hlog)
  · intro hsame
    exact ⟨fun log hlog => h.1 log (hsame.2 log hlog),
      fun p hp hlive hn => hsame.1 _ (h.2 p hp hlive hn)⟩

/-! ## The loop and the condition on its steps -/

/-- One step of the loop of one scanner, or of the chain it follows. -/
inductive LoopAction
  | newChain (chain : CanonicalChain)
  | proceed (input : StepInput)
  /-- The scanner is restarted, or a call it makes fails. -/
  | restart

/-- The step of the system it is. -/
def LoopAction.action (w : ℕ) : LoopAction → ScannerAction
  | .newChain chain => .newChain chain
  | .proceed input => .scanner w input
  | .restart => .abort w

/-- The last block the cursor of a stream has passed. -/
def PaymentDb.lastScannedBlock (db : PaymentDb) (stream : StreamId) : ℕ :=
  ((db.position stream).map ScanCursorState.lastScannedBlock).getD 0

/-- `seed_token_chain_cursor`: where the cursor starts. -/
def seedLastScannedBlock (startBlock : ℕ) : ℕ := startBlock - 1

/-- The rows a batch leaves where they are: those whose transfer it does not hold. -/
def keptRows (matched : List MatchedPaymentInput) (rows : List PaymentRecord) :
    List PaymentRecord :=
  rows.filter (fun p => matched.all (fun m => decide (m.key ≠ p.key)))

theorem mem_keptRows {matched : List MatchedPaymentInput} {rows : List PaymentRecord}
    {p : PaymentRecord} : p ∈ keptRows matched rows ↔ p ∈ rows ∧ ∀ m ∈ matched, m.key ≠ p.key := by
  unfold keptRows
  rw [List.mem_filter, List.all_eq_true]
  simp only [decide_eq_true_eq]

section condition

variable (stream : StreamId) (seed : ℕ) (chain : CanonicalChain) (db : PaymentDb)

/-- **What is scanned is noticed**: of the blocks up to the cursor, the lowest one
that disagrees with the chain holds an observed payment whose block has been
replaced. -/
def Noticed : Prop :=
  LowestNoticed seed (db.lastScannedBlock stream)
    (fun n => AgreesAt stream db.payments (db.due stream chain n) n)
    (ReplacedAt stream chain db.payments)

/-- **What the step leaves is noticed.** A sweep that confirms payments leaves one
it does not confirm in the lowest disagreeing block. A commit leaves one there
that it does not move to another block; above the cursor, a block disagrees
when the chain no longer says of it what the scan was told. -/
def ScannerPc.LeavesNoticed : ScannerPc → Prop
  | .confirming _ head _ ids => LowestNoticed seed (db.lastScannedBlock stream)
      (fun n => AgreesAt stream db.payments (db.due stream chain n) n)
      (ReplacedAt stream chain
        (db.payments.filter (fun p => !confirmSelects ⟨stream, ids, head⟩ p)))
  | .committing scan _ matched => LowestNoticed seed scan.toBlock
      (fun n => if n ≤ scan.lease.lastScannedBlock
        then AgreesAt stream (keptRows matched db.payments) (db.due stream chain n) n
        else SameLogs (db.due stream scan.source n) (db.due stream chain n))
      (ReplacedAt stream chain (keptRows matched db.payments ++ matched))
  | _ => True

instance : Decidable (Noticed stream seed chain db) :=
  inferInstanceAs (Decidable (LowestNoticed _ _ _ _))

instance : (pc : ScannerPc) → Decidable (pc.LeavesNoticed stream seed chain db)
  | .confirming _ _ _ _ => inferInstanceAs (Decidable (LowestNoticed _ _ _ _))
  | .committing _ _ _ => inferInstanceAs (Decidable (LowestNoticed _ _ _ _))
  | .waiting _ | .claimed _ | .targeted _ | .sweeping _ _ _ | .checking _ _ _ _ _ _
  | .mismatched _ | .healing _ _ | .scanning _ | .fetching _ _ _ | .fetched _ _
  | .matching _ _ _ => inferInstanceAs (Decidable True)

end condition

namespace ScannerState

variable (sys : Deployment) (w startBlock : ℕ)

/-- **One step of the loop**, or of the chain. -/
def loopStep (s : ScannerState) (a : LoopAction) : Option ScannerState :=
  step sys s (a.action w)

/-- **The condition on a step**: once it is done, the lowest scanned block that
disagrees with the chain can be noticed. -/
def ReorgNoticed (s : ScannerState) : LoopAction → Prop
  | .newChain chain =>
    Noticed (sys.scanner w).stream (seedLastScannedBlock startBlock) chain s.db
  | .proceed _ => (s.pc w).LeavesNoticed (sys.scanner w).stream (seedLastScannedBlock startBlock)
      s.chain s.db
  | .restart => True

instance (s : ScannerState) : (a : LoopAction) → Decidable (ReorgNoticed sys w startBlock s a)
  | .newChain _ => inferInstanceAs (Decidable (Noticed _ _ _ _))
  | .proceed _ => inferInstanceAs (Decidable (ScannerPc.LeavesNoticed _ _ _ _ _))
  | .restart => inferInstanceAs (Decidable True)

/-- **The start**: the cursor is where the seeding put it, no payment of the
stream is stored, and the orders that will be paid are there. -/
structure Watching (s : ScannerState) : Prop where
  initial : s.Initial
  directory : s.db.Directory
  keys : (s.db.payments.map PaymentRecord.key).Nodup
  fresh : ∀ p ∈ s.db.payments, p.isLiveOf (sys.scanner w).stream = false
  seeded : s.db.position (sys.scanner w).stream = some ⟨seedLastScannedBlock startBlock, 0⟩

/-- An observed payment deep enough for a sweep to check. -/
def Confirmable (s : ScannerState) (p : PaymentRecord) : Prop :=
  p.isObservedOf (sys.scanner w).stream = true ∧
    ∃ n ∈ maxConfirmableBlock s.chain.latestHead (sys.scanner w).minConfirmations,
      p.blockNumber ≤ n

/-- **No further reorganisation is detected**: every payment a sweep would check
is in a canonical block. -/
def NoReorgDetected (s : ScannerState) : Prop :=
  ∀ p ∈ s.db.payments, s.Confirmable sys w p → s.chain.IsCanonical p.block

/-- The observed payments too close to the head for a sweep are in canonical
blocks. -/
def ShallowCanonical (s : ScannerState) : Prop :=
  ∀ p ∈ s.db.payments, p.isObservedOf (sys.scanner w).stream = true →
    ¬ s.Confirmable sys w p → s.chain.IsCanonical p.block

instance (s : ScannerState) (p : PaymentRecord) : Decidable (s.Confirmable sys w p) :=
  inferInstanceAs (Decidable (_ ∧ ∃ n ∈ maxConfirmableBlock _ _, _))

instance (s : ScannerState) : Decidable (s.NoReorgDetected sys w) :=
  inferInstanceAs (Decidable (∀ p ∈ s.db.payments, _))

instance (s : ScannerState) : Decidable (s.ShallowCanonical sys w) :=
  inferInstanceAs (Decidable (∀ p ∈ s.db.payments, _))

/-- **Healed**: every transfer to a known order in the blocks from the start to
the cursor is stored from the block it is in, and no payment of another block
counts. (Block 0 is the genesis block, which has no transactions.) -/
structure Healed (s : ScannerState) : Prop where
  stored : ∀ b ∈ s.chain.blocks, startBlock ≤ b.number → 0 < b.number →
    b.number ≤ s.db.lastScannedBlock (sys.scanner w).stream → ∀ t ∈ b.transfers,
    t.tokenAddress = (sys.scanner w).stream.tokenAddress →
    s.db.knows (sys.scanner w).stream t.toAddress = true →
    ∃ p ∈ s.db.payments, p.isLiveOf (sys.scanner w).stream = true
      ∧ p.log = ⟨t, b.number, b.hash⟩
  canonical : ∀ p ∈ s.db.payments, p.isLiveOf (sys.scanner w).stream = true →
    s.chain.IsCanonical p.block

end ScannerState

/-! ## What the loop keeps -/

/-- **The rows of the stream are those of the blocks between the seed and the
cursor**, and what is scanned is noticed. -/
structure Tracked (stream : StreamId) (seed : ℕ) (chain : CanonicalChain) (db : PaymentDb) :
    Prop where
  directory : db.Directory
  keys : (db.payments.map PaymentRecord.key).Nodup
  seeded : ∃ last epoch, db.position stream = some ⟨last, epoch⟩
  above : seed ≤ db.lastScannedBlock stream
  live : ∀ p ∈ db.payments, p.isLiveOf stream = true →
    seed < p.blockNumber ∧ p.blockNumber ≤ db.lastScannedBlock stream
  noticed : Noticed stream seed chain db

theorem PaymentDb.lastScannedBlock_eq {db : PaymentDb} {stream : StreamId} {last epoch : ℕ}
    (h : db.position stream = some ⟨last, epoch⟩) : db.lastScannedBlock stream = last := by
  unfold lastScannedBlock
  rw [h]
  rfl

theorem PaymentDb.lastScannedBlock_congr {db db' : PaymentDb} {stream : StreamId}
    (h : db'.position stream = db.position stream) :
    db'.lastScannedBlock stream = db.lastScannedBlock stream := by
  unfold lastScannedBlock
  rw [h]

/-- An observed payment is not orphaned. -/
theorem PaymentRecord.isLiveOf_of_observed {p : PaymentRecord} {stream : StreamId}
    (h : p.isObservedOf stream = true) : p.isLiveOf stream = true := by
  unfold PaymentRecord.isObservedOf at h
  simp only [Bool.and_eq_true, decide_eq_true_eq] at h
  unfold PaymentRecord.isLiveOf
  simp [h.1.1, h.1.2, h.2]

/-- A rewind orphans every live payment from its block on. -/
theorem orphanSelects_of_isLiveOf {p : PaymentRecord} {stream : StreamId} {lastReorgFrom : ℕ}
    (h : p.isLiveOf stream = true) (hge : lastReorgFrom ≤ p.blockNumber) :
    orphanSelects stream lastReorgFrom p = true := by
  unfold PaymentRecord.isLiveOf at h
  simp only [Bool.and_eq_true, decide_eq_true_eq] at h
  obtain ⟨⟨hchain, htoken⟩, hlive⟩ := h
  unfold orphanSelects
  rw [decide_eq_true hchain, decide_eq_true htoken, decide_eq_true hge]
  exact hlive

namespace Tracked

variable {stream : StreamId} {seed : ℕ} {chain : CanonicalChain} {db db' : PaymentDb}

/-- A step that touches no payment, no order's target and not where the cursor
is. -/
theorem congr (h : Tracked stream seed chain db) (hpayments : db'.payments = db.payments)
    (htargets : db'.orders.map OrderRecord.target = db.orders.map OrderRecord.target)
    (hwindows : db'.windows = db.windows) (hposition : db'.position stream = db.position stream) :
    Tracked stream seed chain db' := by
  have hlast := PaymentDb.lastScannedBlock_congr hposition
  refine ⟨h.directory.congr htargets hwindows, hpayments ▸ h.keys, hposition ▸ h.seeded,
    hlast ▸ h.above, ?_, ?_⟩
  · rw [hpayments, hlast]
    exact h.live
  · unfold Noticed
    rw [hpayments, hlast]
    simp only [PaymentDb.due_congr htargets]
    exact h.noticed

/-- A sweep that leaves the lowest disagreeing block noticed. -/
theorem confirm (h : Tracked stream seed chain db) {now : Timestamp} {ids : List Uuid}
    {head : ChainBlockRef} {records : List PaymentRecord}
    (hc : confirmObservedPayments db now ⟨stream, ids, head⟩ = .ok (records, db'))
    (hleft : LowestNoticed seed (db.lastScannedBlock stream)
      (fun n => AgreesAt stream db.payments (db.due stream chain n) n)
      (ReplacedAt stream chain
        (db.payments.filter (fun p => !confirmSelects ⟨stream, ids, head⟩ p)))) :
    Tracked stream seed chain db' := by
  have hposition := position_of_confirm hc stream
  have hlast := PaymentDb.lastScannedBlock_congr hposition
  obtain ⟨orderIds, -, -, hdb⟩ := confirmObservedPayments_eq_ok hc
  have htargets : db'.orders.map OrderRecord.target = db.orders.map OrderRecord.target := by
    rw [hdb, PaymentDb.recomputed_targets]
  have hpayments : db'.payments
      = updateWhere (confirmSelects ⟨stream, ids, head⟩) (confirmRow head) db.payments := by
    rw [hdb]
    rfl
  have hlive : ∀ p, confirmSelects ⟨stream, ids, head⟩ p = true →
      (confirmRow head p).isLiveOf stream = true ∧ p.isLiveOf stream = true := by
    intro p hp
    have hobs : p.isObservedOf stream = true := by
      simp only [confirmSelects, Bool.and_eq_true] at hp
      exact hp.1.2
    have hof := PaymentRecord.isLiveOf_of_observed hobs
    refine ⟨?_, hof⟩
    unfold PaymentRecord.isLiveOf at hof ⊢
    simp only [Bool.and_eq_true, decide_eq_true_eq] at hof
    simp [confirmRow, hof.1.1, hof.1.2]
  refine ⟨h.directory.congr htargets (by rw [hdb]; rfl), ?_, hposition ▸ h.seeded,
    hlast ▸ h.above, fun p hp hp' => ?_, ?_⟩
  · rw [hpayments, map_updateWhere (f := confirmRow head) (fun _ => rfl)]
    exact h.keys
  · rw [hlast]
    rw [hpayments] at hp
    rcases mem_updateWhere.mp hp with ⟨q, hq, hsel, rfl⟩ | ⟨hold, -⟩
    · exact h.live q hq (hlive q hsel).2
    · exact h.live p hold hp'
  · unfold Noticed
    rw [hlast, hpayments]
    refine hleft.mono (Nat.le_refl _) (fun n _ _ => ?_) (fun n _ _ hrep => ?_)
    · rw [PaymentDb.due_congr htargets]
      refine agreesAt_iff (fun p hp hp' _ => ?_) (fun p hp hp' _ => ?_)
      · by_cases hsel : confirmSelects ⟨stream, ids, head⟩ p = true
        · exact ⟨confirmRow head p, mem_updateWhere.mpr (Or.inl ⟨p, hp, hsel, rfl⟩),
            (hlive p hsel).1, rfl⟩
        · exact ⟨p, mem_updateWhere.mpr (Or.inr ⟨hp, by simpa using hsel⟩), hp', rfl⟩
      · rcases mem_updateWhere.mp hp with ⟨q, hq, hsel, rfl⟩ | ⟨hold, -⟩
        · exact ⟨q, hq, (hlive q hsel).2, rfl⟩
        · exact ⟨p, hold, hp', rfl⟩
    · obtain ⟨p, hp, hobs, hn, hcan⟩ := hrep
      obtain ⟨hp, hsel⟩ := List.mem_filter.mp hp
      exact ⟨p, mem_updateWhere.mpr (Or.inr ⟨hp, by simpa using hsel⟩), hobs, hn, hcan⟩

/-- **A rewind keeps what is below it.** -/
theorem heal (h : Tracked stream seed chain db) {now : Timestamp} {epoch lastReorgFrom : ℕ}
    (hr : handleKvReorgEpoch db now stream epoch lastReorgFrom = .ok db')
    (hfrom : seed < lastReorgFrom) : Tracked stream seed chain db' := by
  have hposition := position_of_reorg hr
  obtain ⟨c, -, ⟨-, rfl⟩ | ⟨-, orderIds, -, -, hdb⟩⟩ := handleKvReorgEpoch_eq_ok hr
  · exact h
  have htargets : db'.orders.map OrderRecord.target = db.orders.map OrderRecord.target := by
    rw [hdb, PaymentDb.recomputed_targets]
    rfl
  have hpayments : db'.payments
      = updateWhere (orphanSelects stream lastReorgFrom) orphanRow db.payments := by
    rw [hdb]
    rfl
  rcases hposition with rfl | ⟨last, seen, -, hold, hnew, -⟩
  · exact h
  have hlast := PaymentDb.lastScannedBlock_eq hold
  have hlast' := PaymentDb.lastScannedBlock_eq hnew
  have habove := h.above
  -- what is left is below the rewind, and was there
  have hsurvives : ∀ p ∈ db'.payments, p.isLiveOf stream = true →
      p ∈ db.payments ∧ p.blockNumber < lastReorgFrom := by
    intro p hp hlive
    rw [hpayments] at hp
    rcases mem_updateWhere.mp hp with ⟨q, -, -, rfl⟩ | ⟨hold', hsel⟩
    · simp [PaymentRecord.isLiveOf, orphanRow] at hlive
    · refine ⟨hold', ?_⟩
      by_contra hge
      have hselected := orphanSelects_of_isLiveOf hlive (Nat.le_of_not_lt hge)
      rw [hsel] at hselected
      cases hselected
  have hkept : ∀ p ∈ db.payments, p.blockNumber < lastReorgFrom → p ∈ db'.payments := by
    intro p hp hlt
    rw [hpayments]
    refine mem_updateWhere.mpr (Or.inr ⟨hp, ?_⟩)
    simp [orphanSelects, Nat.not_le_of_lt hlt]
  refine ⟨h.directory.congr htargets (by rw [hdb]; rfl), ?_, ⟨_, _, hnew⟩, ?_, fun p hp hlive => ?_,
    ?_⟩
  · rw [hpayments, map_updateWhere (f := orphanRow) (fun _ => rfl)]
    exact h.keys
  · rw [hlast']
    omega
  · obtain ⟨hold', hlt⟩ := hsurvives p hp hlive
    have hrange := h.live p hold' hlive
    rw [hlast']
    omega
  · unfold Noticed
    rw [hlast']
    refine h.noticed.mono (by omega) (fun n hn hlo => ?_) (fun n hn hlo hrep => ?_)
    · rw [PaymentDb.due_congr htargets]
      refine agreesAt_iff (fun p hp hlive hpn => ?_) (fun p hp hlive _ => ?_)
      · exact ⟨p, hkept p hp (by omega), hlive, rfl⟩
      · exact ⟨p, (hsurvives p hp hlive).1, hlive, rfl⟩
    · obtain ⟨p, hp, hobs, hpn, hcan⟩ := hrep
      exact ⟨p, hkept p hp (by omega), hobs, hpn, hcan⟩

/-- **A commit extends what is scanned.** -/
theorem commit (h : Tracked stream seed chain db) {cfg : PaymentScannerConfig}
    (hstream : cfg.stream = stream) {now : Timestamp} {scan : Scan} {head : ChainBlockRef}
    {matched : List MatchedPaymentInput} {records : List PaymentRecord}
    (hc : commitScannedBatch db now (scan.batch cfg matched) = .ok (records, db'))
    (hfaithful : (ScannerPc.committing scan head matched).Faithful cfg)
    (hall : (ScannerPc.committing scan head matched).HoldsAll cfg db)
    (hleft : (ScannerPc.committing scan head matched).LeavesNoticed stream seed chain db) :
    Tracked stream seed chain db' := by
  subst hstream
  obtain ⟨hstored, htargets, hwindows⟩ := stored_of_commit hc hfaithful h.keys
  obtain ⟨hle, hbefore, hafter, -⟩ := position_of_commit hc
  replace hle : scan.lease.lastScannedBlock ≤ scan.toBlock := hle
  have hlast := PaymentDb.lastScannedBlock_eq hbefore
  have hlast' := PaymentDb.lastScannedBlock_eq hafter
  replace hlast : db.lastScannedBlock cfg.stream = scan.lease.lastScannedBlock := hlast
  replace hlast' : db'.lastScannedBlock cfg.stream = scan.toBlock := hlast'
  have habove := h.above
  rw [hlast] at habove
  have hrange : ∀ {p : PaymentRecord} {m : MatchedPaymentInput}, m ∈ matched → p.SameSighting m →
      scan.lease.lastScannedBlock < p.blockNumber ∧ p.blockNumber ≤ scan.toBlock := by
    intro p m hm hsight
    obtain ⟨-, hlo, hhi, -⟩ := mem_matched_of_faithful hfaithful hm
    rw [hsight.blockNumber]
    exact ⟨hlo, hhi⟩
  refine ⟨h.directory.congr htargets hwindows, hstored.keys, ⟨_, _, hafter⟩, ?_,
    fun p hp hlive => ?_, ?_⟩
  · rw [hlast']
    omega
  · rw [hlast']
    rcases hstored.source p hp with ⟨hold, -⟩ | ⟨-, m, hm, hsight⟩
    · have hold' := h.live p hold hlive
      rw [hlast] at hold'
      omega
    · have hnew := hrange hm hsight
      omega
  · unfold Noticed
    rw [hlast']
    refine LowestNoticed.mono hleft (Nat.le_refl _) (fun n hn hlo => ?_) (fun n _ _ hrep => ?_)
    · rw [PaymentDb.due_congr htargets]
      by_cases hscanned : n ≤ scan.lease.lastScannedBlock
      -- below the old cursor only moved rows are gone
      · rw [if_pos hscanned]
        refine agreesAt_iff (fun p hp hlive _ => ?_) (fun p hp hlive hpn => ?_)
        · obtain ⟨hold, hother⟩ := mem_keptRows.mp hp
          exact ⟨p, hstored.kept p hold hother, hlive, rfl⟩
        · rcases hstored.source p hp with ⟨hold, hother⟩ | ⟨-, m, hm, hsight⟩
          · exact ⟨p, mem_keptRows.mpr ⟨hold, hother⟩, hlive, rfl⟩
          · have hnew := hrange hm hsight
            omega
      -- above it the rows are those of the chain that was read
      · rw [if_neg hscanned]
        refine (agreesAt_of_commit hc hfaithful hall h.keys (Nat.lt_of_not_le hscanned) hn
          (fun p hp hlive hpn => ?_)).iff_sameLogs
        have hold := h.live p hp hlive
        rw [hlast] at hold
        omega
    · obtain ⟨p, hp, hobs, hpn, hcan⟩ := hrep
      rcases List.mem_append.mp hp with hkept | hm
      · obtain ⟨hold, hother⟩ := mem_keptRows.mp hkept
        exact ⟨p, hstored.kept p hold hother, hobs, hpn, hcan⟩
      · obtain ⟨q, hq, hsight⟩ := hstored.stored p hm
        refine ⟨q, hq, hsight.isObservedOf cfg.stream ▸ hobs, hsight.blockNumber.trans hpn, ?_⟩
        rw [hsight.block]
        exact hcan

end Tracked

/-- A sweep looks at blocks above the seed, and so does a rewind. -/
def ScannerPc.SweepsAbove (seed : ℕ) : ScannerPc → Prop
  | .checking _ _ _ todo _ _ => ∀ c ∈ todo, seed < c.block.number
  | .mismatched blockNumber => seed < blockNumber
  | .healing blockNumber _ => seed < blockNumber
  | _ => True

/-- A candidate is read from an observed payment of the stream. -/
theorem exists_of_candidate {db : PaymentDb} {stream : StreamId} {maxBlockNumber limit : ℕ}
    {cs : List PaymentConfirmationCandidate}
    (h : observedPaymentConfirmationCandidates db stream maxBlockNumber limit = .ok cs)
    {c : PaymentConfirmationCandidate} (hc : c ∈ cs) :
    ∃ p ∈ db.payments, p.isObservedOf stream = true ∧ c = p.candidate := by
  unfold observedPaymentConfirmationCandidates at h
  obtain ⟨-, h⟩ := ensure_bind_eq_ok.mp h
  obtain ⟨_, -, h⟩ := Except.bind_eq_ok.mp h
  obtain ⟨_, -, h⟩ := Except.bind_eq_ok.mp h
  obtain ⟨_, -, h⟩ := Except.bind_eq_ok.mp h
  rw [← Except.pure_eq_ok.mp h] at hc
  obtain ⟨p, hp, rfl⟩ := List.mem_map.mp hc
  obtain ⟨hp, hcond⟩ := List.mem_filter.mp ((List.mem_insertionSort _).mp (List.mem_of_mem_take hp))
  simp only [Bool.and_eq_true] at hcond
  exact ⟨p, hp, hcond.1, rfl⟩

section moves

variable {cfg : PaymentScannerConfig} {db db' : PaymentDb} {chain : CanonicalChain}
  {input : StepInput} {pc pc' : ScannerPc} {seed : ℕ}

/-- A move that looks above the seed goes on to look above it. -/
theorem ScannerMove.sweepsAbove (h : ScannerMove cfg db chain input pc db' pc')
    (htracked : Tracked cfg.stream seed chain db) (hpc : pc.SweepsAbove seed) :
    pc'.SweepsAbove seed := by
  cases h with
  | candidates tick head hread =>
    intro c hc
    obtain ⟨p, hp, hobs, rfl⟩ := exists_of_candidate hread hc
    exact (htracked.live p hp (PaymentRecord.isLiveOf_of_observed hobs)).1
  | check tick head cs rest ids hblock hhash =>
    exact fun c hc => hpc c (List.mem_cons_of_mem _ hc)
  | mismatch tick head cs rest ids hblock hhash => exact hpc _ List.mem_cons_self
  | readEpoch blockNumber => exact hpc
  | confirm tick cs _ hpc' =>
    rcases hpc' with rfl | ⟨result, rfl⟩
    · trivial
    · trivial
  | _ => trivial

/-- **Every move keeps the rows tracked**, if it leaves the lowest disagreeing
block noticed. -/
theorem ScannerMove.tracked (h : ScannerMove cfg db chain input pc db' pc')
    (htracked : Tracked cfg.stream seed chain db) (hfaithful : pc.Faithful cfg)
    (hall : pc.HoldsAll cfg db) (hsweeps : pc.SweepsAbove seed)
    (hleft : pc.LeavesNoticed cfg.stream seed chain db) :
    Tracked cfg.stream seed chain db' := by
  cases h with
  | claim hclaim =>
    have hposition := position_of_claim hclaim cfg.stream
    obtain ⟨hnone, -⟩ | ⟨c, -, -, rfl⟩ := claimScanRange_eq_ok hclaim
    · cases hnone
    · exact htracked.congr rfl rfl rfl hposition
  | confirm tick cs hc _ => exact htracked.confirm hc hleft
  | heal hr => exact htracked.heal hr hsweeps
  | commit head hc => exact htracked.commit rfl hc hfaithful hall hleft
  | _ => exact htracked

/-- No move changes where an order is paid. -/
theorem ScannerMove.targets (h : ScannerMove cfg db chain input pc db' pc') :
    db'.orders.map OrderRecord.target = db.orders.map OrderRecord.target := by
  cases h with
  | claim hclaim =>
    obtain ⟨hnone, -⟩ | ⟨c, -, -, rfl⟩ := claimScanRange_eq_ok hclaim
    · cases hnone
    · rfl
  | confirm tick cs hc _ =>
    obtain ⟨orderIds, -, -, rfl⟩ := confirmObservedPayments_eq_ok hc
    exact PaymentDb.recomputed_targets _ _ _
  | heal hr =>
    obtain ⟨c, -, ⟨-, rfl⟩ | ⟨-, orderIds, -, -, rfl⟩⟩ := handleKvReorgEpoch_eq_ok hr
    · rfl
    · exact PaymentDb.recomputed_targets _ _ _
  | commit head hc =>
    obtain ⟨c, db₁, -, -, -, -, -, hup, -, rfl⟩ := commitScannedBatch_eq_ok hc
    rw [PaymentDb.updateCursor_orders, PaymentDb.recomputed_targets,
      upsertMatchedPayments_frame hup]
  | _ => rfl

end moves

namespace ScannerState

variable {sys : Deployment} {w startBlock : ℕ} {s t u : ScannerState}

/-- **What every state of a run has**: the rows are tracked, and the scanner holds
what it read. -/
structure LoopInv (sys : Deployment) (w startBlock : ℕ) (s : ScannerState) : Prop where
  tracked : Tracked (sys.scanner w).stream (seedLastScannedBlock startBlock) s.chain s.db
  faithful : (s.pc w).Faithful (sys.scanner w)
  holdsAll : (s.pc w).HoldsAll (sys.scanner w) s.db
  sweeps : (s.pc w).SweepsAbove (seedLastScannedBlock startBlock)

theorem Watching.loopInv (h : s.Watching sys w startBlock) : s.LoopInv sys w startBlock := by
  have hwait := h.initial.waiting w
  have hlast := PaymentDb.lastScannedBlock_eq h.seeded
  refine ⟨⟨h.directory, h.keys, ⟨_, _, h.seeded⟩, hlast.ge, ?_, ?_⟩, ?_, ?_, ?_⟩
  · intro p hp hlive
    rw [h.fresh p hp] at hlive
    cases hlive
  · -- nothing lies between the seed and itself
    intro n hn hlo
    rw [hlast] at hn
    omega
  · rw [hwait]
    trivial
  · rw [hwait]
    trivial
  · rw [hwait]
    trivial

/-- **One step of the loop** keeps it all, if the reorganisation can be noticed. -/
theorem LoopInv.step {a : LoopAction} (h : s.LoopInv sys w startBlock)
    (hnoticed : ReorgNoticed sys w startBlock s a) (hst : loopStep sys w s a = some t) :
    t.LoopInv sys w startBlock := by
  cases a with
  | newChain chain =>
    cases move_of_step hst with
    | newChain hk =>
      exact ⟨⟨h.tracked.directory, h.tracked.keys, h.tracked.seeded, h.tracked.above,
        h.tracked.live, hnoticed⟩, h.faithful, h.holdsAll, h.sweeps⟩
  | proceed input =>
    cases move_of_step hst with
    | @scanner _ _ db' pc' hmove =>
      have hall := hmove.holdsAll h.tracked.directory h.faithful
      refine ⟨hmove.tracked h.tracked h.faithful h.holdsAll h.sweeps hnoticed, ?_, ?_, ?_⟩
      · rw [afterScanner_pc_self]
        exact hmove.faithful h.faithful
      · rw [afterScanner_pc_self]
        show pc'.HoldsAll _ db'
        unfold ScannerPc.HoldsAll at hall ⊢
        simp only [PaymentDb.knows_congr hmove.targets]
        exact hall
      · rw [afterScanner_pc_self]
        exact hmove.sweepsAbove h.tracked h.sweeps
  | restart =>
    cases move_of_step hst with
    | abort _ =>
      have hpc : Function.update s.pc w (.waiting none) w = .waiting none :=
        Function.update_self w _ s.pc
      refine ⟨h.tracked, ?_, ?_, ?_⟩
      · show ScannerPc.Faithful _ (Function.update s.pc w _ w)
        rw [hpc]
        trivial
      · show ScannerPc.HoldsAll _ _ (Function.update s.pc w _ w)
        rw [hpc]
        trivial
      · show ScannerPc.SweepsAbove _ (Function.update s.pc w _ w)
        rw [hpc]
        trivial

/-- Where every observed payment is in a canonical block, the rows agree with
every scanned block. -/
theorem LoopInv.agrees (h : s.LoopInv sys w startBlock)
    (hcanonical : ∀ p ∈ s.db.payments, p.isObservedOf (sys.scanner w).stream = true →
      s.chain.IsCanonical p.block) {n : ℕ}
    (hlo : seedLastScannedBlock startBlock < n)
    (hhi : n ≤ s.db.lastScannedBlock (sys.scanner w).stream) :
    AgreesAt (sys.scanner w).stream s.db.payments
      (s.db.due (sys.scanner w).stream s.chain n) n := by
  refine LowestNoticed.forall_agrees h.tracked.noticed (fun k _ hrep => ?_) n hhi hlo
  obtain ⟨p, hp, hobs, -, hnot⟩ := hrep
  exact hnot (hcanonical p hp hobs)

/-- **Reorganisations are healed** in every run whose steps leave the lowest
disagreeing block noticed, once no further one is detected and none is too
close to the head to be. -/
theorem healed_of_run {as : List LoopAction} (hinit : s.Watching sys w startBlock)
    (hnoticed : StepsMeet (loopStep sys w) (ReorgNoticed sys w startBlock) s as)
    (hr : runSteps (loopStep sys w) s as = some u) (hquiet : u.NoReorgDetected sys w)
    (hshallow : u.ShallowCanonical sys w) : u.Healed sys w startBlock := by
  have hinv : u.LoopInv sys w startBlock :=
    inv_of_run (fun _ _ _ h hP hst => LoopInv.step h hP hst) hinit.loopInv hnoticed hr
  have hcanonical : ∀ p ∈ u.db.payments, p.isObservedOf (sys.scanner w).stream = true →
      u.chain.IsCanonical p.block := by
    intro p hp hobs
    by_cases hdeep : u.Confirmable sys w p
    · exact hquiet p hp hdeep
    · exact hshallow p hp hobs hdeep
  constructor
  · intro b hb hstart hpos hlast t ht htoken hknown
    have hseed : seedLastScannedBlock startBlock < b.number := by
      unfold seedLastScannedBlock
      omega
    exact (hinv.agrees hcanonical hseed hlast).1 _
      (PaymentDb.mem_due.mpr ⟨b, hb, rfl, t, ht, htoken, hknown, rfl⟩)
  · intro p hp hlive
    obtain ⟨hlo, hhi⟩ := hinv.tracked.live p hp hlive
    have hdue := (hinv.agrees hcanonical hlo hhi).2 p hp hlive rfl
    exact CanonicalChain.isCanonical_of_mem_getLogs (List.mem_of_mem_filter hdue)

namespace LateReorg

open SmallScanner

/-- A number of steps of the loop, answered with the header of a block. -/
def turns (n block : ℕ) : List LoopAction := List.replicate n (.proceed (input block))

/-- The payment is scanned in block 1 and the chain moves it to block 2: the sweep
finds block 1 replaced, the loop rewinds and scans both blocks again. -/
def healedRun : List LoopAction := turns 10 1 ++ [.newChain lateChain] ++ turns 7 1 ++ turns 10 2

/-- Block 1 is scanned without the payment, and replaced by one with it; another
tick finds nothing to do. -/
def missedRun : List LoopAction := turns 9 1 ++ [.newChain paidChain] ++ turns 5 1

theorem watching (chain : CanonicalChain) : (initial chain).Watching SmallScanner.sys 0 1 where
  initial := initial_initial chain
  directory := by
    refine ⟨?_, ?_, ?_, ?_, ?_⟩
    · show List.Nodup [order.id]
      exact List.nodup_singleton _
    · show List.Nodup [order.receiveAddress]
      exact List.nodup_singleton _
    · exact List.nodup_singleton _
    · intro o ho
      obtain rfl := List.mem_singleton.mp ho
      exact ⟨_, List.mem_singleton_self _, rfl⟩
    · intro w hw o ho _
      obtain rfl := List.mem_singleton.mp hw
      obtain rfl := List.mem_singleton.mp ho
      rfl
  keys := List.nodup_nil
  fresh := fun p hp => absurd hp List.not_mem_nil
  seeded := by
    show (initial emptyChain).db.position stream = _
    decide

end LateReorg

/-- The reorganisation that moves the payment is healed. -/
theorem healed_of_late_reorg :
    ∃ u, runSteps (loopStep SmallScanner.sys 0) (SmallScanner.initial SmallScanner.paidChain)
        LateReorg.healedRun = some u
      ∧ u.db.payments.map (fun p => (p.blockNumber, p.chainStatus)) = [(2, .observed)]
      ∧ u.Healed SmallScanner.sys 0 1 := by
  have hend : ((runSteps (loopStep SmallScanner.sys 0)
      (SmallScanner.initial SmallScanner.paidChain) LateReorg.healedRun).filter (fun u =>
        decide (u.db.payments.map (fun p => (p.blockNumber, p.chainStatus)) = [(2, .observed)])
          && decide (u.NoReorgDetected SmallScanner.sys 0)
          && decide (u.ShallowCanonical SmallScanner.sys 0))).isSome = true := by
    decide
  obtain ⟨u, hu⟩ := Option.isSome_iff_exists.mp hend
  obtain ⟨hr, hu⟩ := Option.filter_eq_some_iff.mp hu
  simp only [Bool.and_eq_true, decide_eq_true_eq] at hu
  exact ⟨u, hr, hu.1.1, healed_of_run (LateReorg.watching _) (by decide) hr hu.1.2 hu.2⟩

/-- **A payment is missed**: the block that holds it took the place of a scanned
block without payments, so nothing is stored whose block could be compared. -/
theorem healed_fails :
    ¬ ∀ (sys : Deployment) (w startBlock : ℕ) (s u : ScannerState) (as : List LoopAction),
      s.Watching sys w startBlock → runSteps (loopStep sys w) s as = some u →
      u.db.lastScannedBlock (sys.scanner w).stream = u.chain.latestHead.number →
      u.NoReorgDetected sys w → u.Healed sys w startBlock := by
  intro hall
  have hend : ((runSteps (loopStep SmallScanner.sys 0)
      (SmallScanner.initial SmallScanner.emptyChain) LateReorg.missedRun).filter (fun u =>
        decide (u.db.lastScannedBlock SmallScanner.stream = 1)
          && decide (u.chain.blocks = SmallScanner.paidChain.blocks)
          && decide (u.chain.latestHead.number = 1)
          && u.db.knows SmallScanner.stream SmallScanner.transfer.toAddress
          && decide (u.db.payments = []))).isSome = true := by
    decide
  obtain ⟨u, hu⟩ := Option.isSome_iff_exists.mp hend
  obtain ⟨hr, hu⟩ := Option.filter_eq_some_iff.mp hu
  simp only [Bool.and_eq_true, decide_eq_true_eq] at hu
  obtain ⟨⟨⟨⟨hlast, hblocks⟩, hhead⟩, hknown⟩, hnone⟩ := hu
  have hquiet : u.NoReorgDetected SmallScanner.sys 0 := by
    intro p hp
    rw [hnone] at hp
    exact absurd hp List.not_mem_nil
  have hhealed := hall SmallScanner.sys 0 1 _ u LateReorg.missedRun (LateReorg.watching _) hr
    (hlast.trans hhead.symm) hquiet
  obtain ⟨p, hp, -⟩ := hhealed.stored SmallScanner.paid1 (hblocks ▸ by decide) (by decide)
    (by decide) hlast.ge SmallScanner.transfer (by decide) rfl hknown
  rw [hnone] at hp
  exact List.not_mem_nil hp

end ScannerState
