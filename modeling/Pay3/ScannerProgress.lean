import Pay3.Rescans

/-!
# Whether the scanner moves on

The range of a scan is set by the configuration: from the cursor on, as many
blocks as a batch has. Two limits are set by traffic, on the recipients of a
batch and on what a provider answers in one call, and either can refuse the range
although every block of it would pass alone. A refused range is not made smaller.
The next tick asks for it again, and gets the same answer.

While nothing else fails and the chain stays as it is, the scanner leaves a range
exactly when the range as a whole is answered within the limits. Before it scans
it sweeps, which it can do only so often: each sweep leaves fewer payments to
confirm.
-/

/-- The number of different addresses among the recipients. -/
def recipientCount (logs : List TransferLog) : ℕ :=
  (sortedSet (logs.map (fun log => log.toAddress))).length

/-- **The range is answered within the limits.** -/
def RangeAnswered (cfg : PaymentScannerConfig) (source : ChainSource) (fromBlock toBlock : ℕ) :
    Prop :=
  ∃ logs, source.transferLogs
      ⟨cfg.stream.chainId, cfg.stream.tokenAddress, fromBlock, toBlock, none⟩ = .ok logs
    ∧ recipientCount logs ≤ cfg.maxUniqueToAddressesPerBatch
    ∧ recipientCount logs ≤ cfg.maxFallbackAddresses

/-- An error of a limit: too many recipients, for the batch or for the lookup, or
a call for logs that the provider refused. -/
def PaymentScannerError.isRangeLimit : PaymentScannerError → Bool
  | .paymentMatching (.uniqueAddressLimitExceeded _ _) => true
  | .paymentMatching (.chain _) => true
  | .paymentMatching (.paymentWindowLookup field _) => field == "to_addresses"
  | _ => false

/-- **Nothing but a limit went wrong**: the tick had its lease, and it ended well or
with the error of a limit. -/
def onlyLimits : Except PaymentScannerError PaymentScannerTickOutcome → Bool
  | .ok (.leaseHeld _ _) => false
  | .ok _ => true
  | .error e => e.isRangeLimit

/-- The block the cursor of a stream is at. -/
def PaymentDb.lastScanned (db : PaymentDb) (stream : StreamId) : Option ℕ :=
  (db.cursor? stream).map ChainCursor.lastScannedBlock

/-- **The database after a number of ticks**, one after the other. -/
def ticks (cfg : PaymentScannerConfig) (source : ChainSource) :
    (ℕ → TickInput) → ℕ → PaymentDb → PaymentDb
  | _, 0, db => db
  | inputs, n + 1, db =>
    ticks cfg source (fun k => inputs (k + 1)) n (tick cfg source (inputs 0) db).1

/-- What the tick after a number of ticks returns. -/
def tickResult (cfg : PaymentScannerConfig) (source : ChainSource) (inputs : ℕ → TickInput) (n : ℕ)
    (db : PaymentDb) : Except PaymentScannerError PaymentScannerTickOutcome :=
  (tick cfg source (inputs n) (ticks cfg source inputs n db)).2

variable {cfg : PaymentScannerConfig} {source : ChainSource} {input : TickInput}
  {db db' : PaymentDb}

/-! ## A range that is refused -/

/-- A range that was matched was answered within the limits. -/
theorem rangeAnswered_of_matchRange {newId : ℕ → Uuid} {a b : ℕ}
    {matched : List MatchedPaymentInput} (h : matchRange cfg source db newId a b = .ok matched) :
    RangeAnswered cfg source a b := by
  unfold matchRange at h
  obtain ⟨-, h⟩ := ensure_bind_eq_ok.mp h
  obtain ⟨logs, hlogs, h⟩ := Except.bind_eq_ok.mp h
  obtain ⟨head, -, h⟩ := Except.bind_eq_ok.mp h
  obtain ⟨hmax, h⟩ := ensure_bind_eq_ok.mp h
  refine ⟨logs, Except.mapError_eq_ok.mp hlogs, of_decide_eq_true hmax, ?_⟩
  unfold recipientCount
  cases hempty : (sortedSet (logs.map (fun log => log.toAddress))).isEmpty with
  | true =>
    rw [List.isEmpty_iff.mp hempty]
    exact Nat.zero_le _
  | false =>
    rw [hempty, if_neg (by decide)] at h
    obtain ⟨candidates, hlookup, -⟩ := Except.bind_eq_ok.mp h
    unfold lookupBatch at hlookup
    obtain ⟨-, hlookup⟩ := ensure_bind_eq_ok.mp hlookup
    exact of_decide_eq_true (ensure_bind_eq_ok.mp hlookup).1

/-- A claim leaves the cursor where it is. -/
theorem lastScanned_of_claim {now leaseUntil : Timestamp} {workerId : String} {stream : StreamId}
    {lease : ScanCursorLease}
    (h : claimScanRange db now workerId stream leaseUntil = .ok (some lease, db')) :
    db.lastScanned stream = some lease.lastScannedBlock
      ∧ db'.lastScanned stream = some lease.lastScannedBlock := by
  rcases claimScanRange_eq_ok h with ⟨hnone, -⟩ | ⟨c, hc, hlease, rfl⟩
  · cases hnone
  · obtain rfl := Option.some.inj hlease
    unfold PaymentDb.lastScanned
    rw [PaymentDb.cursor?_updateCursor_self (ChainCursor.leased_stream _ _) hc, hc]
    exact ⟨rfl, rfl⟩

/-- So does a sweep. -/
theorem lastScanned_of_confirm {now : Timestamp} {batch : ConfirmObservedPaymentsBatch}
    {records : List PaymentRecord}
    (h : confirmObservedPayments db now batch = .ok (records, db')) (stream : StreamId) :
    db'.lastScanned stream = db.lastScanned stream := by
  obtain ⟨orderIds, -, -, rfl⟩ := confirmObservedPayments_eq_ok h
  rfl

/-- **A tick that meets a refused range leaves the cursor where it is.** -/
theorem lastScanned_of_refused {head : ChainBlockRef} {last : ℕ}
    (hhead : source.latestHead = .ok head) (hlast : db.lastScanned cfg.stream = some last)
    (hrefused : ¬ RangeAnswered cfg source (last + 1) (cfg.toBlock (last + 1) head.number)) :
    (tick cfg source input db).1.lastScanned cfg.stream = some last := by
  have hmove := @tickMove_of_tick cfg source input db
  generalize (tick cfg source input db).1 = db₂ at hmove
  cases hmove with
  | untouched => exact hlast
  | claimed hclaim =>
    obtain ⟨hbefore, hafter⟩ := lastScanned_of_claim hclaim
    rw [hafter, ← hbefore, hlast]
  | swept hclaim hconfirm =>
    obtain ⟨hbefore, hafter⟩ := lastScanned_of_claim hclaim
    rw [lastScanned_of_confirm hconfirm, hafter, ← hbefore, hlast]
  | committed hclaim hhead' hmatch _ =>
    obtain ⟨hbefore, -⟩ := lastScanned_of_claim hclaim
    rw [hlast] at hbefore
    rw [hhead] at hhead'
    obtain rfl := Except.ok.inj hhead'
    rw [← Option.some.inj hbefore] at hmatch
    exact absurd (rangeAnswered_of_matchRange hmatch) hrefused

/-- So it stays there, however many ticks follow. -/
theorem lastScanned_ticks_of_refused {head : ChainBlockRef} {last : ℕ}
    (hhead : source.latestHead = .ok head)
    (hrefused : ¬ RangeAnswered cfg source (last + 1) (cfg.toBlock (last + 1) head.number)) (n : ℕ)
    (inputs : ℕ → TickInput) (hlast : db.lastScanned cfg.stream = some last) :
    (ticks cfg source inputs n db).lastScanned cfg.stream = some last := by
  induction n generalizing db inputs with
  | zero => exact hlast
  | succ n ih => exact ih _ (lastScanned_of_refused hhead hlast hrefused)

/-! ## A range that is answered -/

/-- The errors that are not those of a limit. -/
abbrev NoLimit (e : PaymentScannerError) : Prop := e.isRangeLimit = false

/-- A claim fails with no limit. -/
theorem claimForTick_failsOnly : (claimForTick cfg input db).FailsOnly NoLimit := by
  unfold claimForTick PaymentScannerConfig.validate
  refine Except.FailsOnly.bind ?_ (fun _ _ => ?_)
  · refine Except.FailsOnly.bind (failsOnly_ensure rfl) (fun _ _ => ?_)
    refine Except.FailsOnly.bind (failsOnly_ensure rfl) (fun _ _ => ?_)
    refine Except.FailsOnly.bind (failsOnly_ensure rfl) (fun _ _ => ?_)
    exact Except.FailsOnly.bind (failsOnly_ensure rfl) (fun _ _ => failsOnly_ensure rfl)
  · exact Except.FailsOnly.bind (failsOnly_ensure rfl)
      (fun _ _ => Except.FailsOnly.mapError (fun _ _ => rfl))

theorem canonicalConfirmablePaymentIds_failsOnly {head : ChainBlockRef}
    {candidates : List PaymentConfirmationCandidate} {blocks : List ChainBlockRef} :
    (canonicalConfirmablePaymentIds cfg source head candidates blocks).FailsOnly NoLimit := by
  induction candidates generalizing blocks with
  | nil => exact Except.failsOnly_ok []
  | cons c rest ih =>
    unfold canonicalConfirmablePaymentIds
    refine Except.FailsOnly.bind ?_ (fun block _ => ?_)
    · unfold sweptBlock
      split
      · exact Except.failsOnly_ok _
      · exact Except.FailsOnly.mapError (fun _ _ => rfl)
    · refine Except.FailsOnly.bind (failsOnly_ensure rfl) (fun _ _ => ?_)
      exact Except.FailsOnly.bind ih (fun _ _ => Except.failsOnly_ok _)

/-- A sweep fails with no limit. -/
theorem sweepConfirmations_failsOnly : (sweepConfirmations cfg source input db).FailsOnly NoLimit := by
  unfold sweepConfirmations
  refine Except.FailsOnly.bind (Except.FailsOnly.mapError (fun _ _ => rfl)) (fun head _ => ?_)
  refine Except.FailsOnly.bind ?_ (fun paymentIds _ => ?_)
  · unfold sweepPaymentIds
    split
    · exact Except.failsOnly_ok []
    · exact Except.FailsOnly.bind (Except.FailsOnly.mapError (fun _ _ => rfl))
        (fun _ _ => canonicalConfirmablePaymentIds_failsOnly)
  · exact Except.FailsOnly.bind (Except.FailsOnly.mapError (fun _ _ => rfl))
      (fun _ _ => Except.failsOnly_ok _)

/-- **Matching a range that is answered within the limits** fails with no limit. -/
theorem matchRange_failsOnly {head : ChainBlockRef} {newId : ℕ → Uuid} {a b : ℕ}
    (hhead : source.latestHead = .ok head) (h : RangeAnswered cfg source a b) :
    (matchRange cfg source db newId a b).FailsOnly (fun e => NoLimit (.paymentMatching e)) := by
  obtain ⟨logs, hlogs, hunique, hfallback⟩ := h
  unfold recipientCount at hunique hfallback
  unfold matchRange
  refine Except.FailsOnly.bind (failsOnly_ensure rfl) (fun _ _ => ?_)
  dsimp only
  rw [hlogs, hhead]
  refine Except.FailsOnly.bind (Except.failsOnly_ok _) (fun logs' hlogs' => ?_)
  obtain rfl := Except.ok.inj hlogs'
  refine Except.FailsOnly.bind (Except.failsOnly_ok _) (fun _ _ => ?_)
  rw [show decide ((sortedSet (logs.map (fun log => log.toAddress))).length
    ≤ cfg.maxUniqueToAddressesPerBatch) = true from decide_eq_true hunique]
  refine Except.FailsOnly.bind (Except.failsOnly_ok ()) (fun _ _ => ?_)
  have hlookup : (lookupBatch cfg db (sortedSet (logs.map (fun log => log.toAddress)))).FailsOnly
      (fun e => NoLimit (.paymentMatching e)) := by
    unfold lookupBatch
    refine Except.FailsOnly.bind (failsOnly_ensure rfl) (fun _ _ => ?_)
    rw [show decide ((sortedSet (logs.map (fun log => log.toAddress))).length
      ≤ cfg.maxFallbackAddresses) = true from decide_eq_true hfallback]
    exact Except.FailsOnly.bind (Except.failsOnly_ok ())
      (fun _ _ => Except.FailsOnly.mapError (fun _ _ => rfl))
  split
  · exact Except.failsOnly_ok _
  · exact Except.FailsOnly.bind hlookup (fun _ _ => Except.failsOnly_ok _)

/-- So under its lease a tick that meets such a range fails with no limit. -/
theorem underLease_failsOnly {head : ChainBlockRef} {lease : ScanCursorLease}
    (hhead : source.latestHead = .ok head)
    (h : RangeAnswered cfg source (lease.lastScannedBlock + 1)
      (cfg.toBlock (lease.lastScannedBlock + 1) head.number)) :
    (underLease cfg source input lease db).FailsOnly NoLimit := by
  unfold underLease
  rw [hhead]
  refine Except.FailsOnly.bind (Except.failsOnly_ok _) (fun head' hhead' => ?_)
  obtain rfl := Except.ok.inj hhead'
  refine Except.FailsOnly.bind sweepConfirmations_failsOnly (fun swept _ => ?_)
  obtain ⟨outcome, db₁⟩ := swept
  cases outcome with
  | some outcome => exact Except.failsOnly_ok _
  | none =>
    dsimp only
    unfold scanBatch
    split
    · exact Except.failsOnly_ok _
    · refine Except.FailsOnly.bind
        (Except.FailsOnly.mapError (matchRange_failsOnly hhead h)) (fun _ _ => ?_)
      exact Except.FailsOnly.bind (Except.FailsOnly.mapError (fun _ _ => rfl))
        (fun _ _ => Except.failsOnly_ok _)

/-! ## Sweeps come to an end -/

/-- The payments of a stream that wait for confirmation. -/
def PaymentDb.observedCount (db : PaymentDb) (stream : StreamId) : ℕ :=
  db.payments.countP (fun p => p.isObservedOf stream)

/-- **A sweep that confirmed something** leaves fewer payments to confirm. -/
theorem observedCount_of_confirm {now : Timestamp} {batch : ConfirmObservedPaymentsBatch}
    {r : PaymentRecord} {records : List PaymentRecord}
    (h : confirmObservedPayments db now batch = .ok (r :: records, db')) :
    db'.observedCount batch.stream < db.observedCount batch.stream := by
  -- the first record is a row the update selected
  have hsome : ∃ p ∈ db.payments, confirmSelects batch p = true := by
    unfold confirmObservedPayments at h
    by_cases he : batch.paymentIds.isEmpty = true
    · rw [if_pos he] at h
      cases h
    · rw [if_neg he] at h
      obtain ⟨_, -, h⟩ := Except.bind_eq_ok.mp h
      obtain ⟨_, -, h⟩ := Except.bind_eq_ok.mp h
      obtain ⟨db₂, -, h⟩ := Except.bind_eq_ok.mp h
      obtain ⟨hrecords, -⟩ := Prod.mk.inj (Except.pure_eq_ok.mp h)
      have hmem : r ∈ ((db.payments.filter (confirmSelects batch)).map
          (confirmRow batch.canonicalHead)).insertionSort (fun a b => a.leByBlock b = true) := by
        rw [hrecords]
        exact List.mem_cons_self
      obtain ⟨p, hp, -⟩ := List.mem_map.mp ((List.mem_insertionSort _).mp hmem)
      obtain ⟨hp, hsel⟩ := List.mem_filter.mp hp
      exact ⟨p, hp, hsel⟩
  obtain ⟨p, hp, hsel⟩ := hsome
  obtain ⟨orderIds, -, -, rfl⟩ := confirmObservedPayments_eq_ok h
  have hout : ∀ q, confirmSelects batch q = true → q.isObservedOf batch.stream = true
      ∧ (confirmRow batch.canonicalHead q).isObservedOf batch.stream = false := by
    intro q hq
    unfold confirmSelects at hq
    simp only [Bool.and_eq_true] at hq
    refine ⟨hq.1.2, ?_⟩
    unfold PaymentRecord.isObservedOf confirmRow
    simp
  have hcount := countP_updateWhere hout db.payments
  have hpos : 0 < db.payments.countP (confirmSelects batch) := List.countP_pos_iff.mpr ⟨p, hp, hsel⟩
  show (updateWhere (confirmSelects batch) (confirmRow batch.canonicalHead) db.payments).countP
    (fun p => p.isObservedOf batch.stream) < db.payments.countP (fun p => p.isObservedOf batch.stream)
  omega

/-! ## The scanner moves on -/

/-- The end of a range lies past its cursor, as long as the cursor is a bigint. -/
theorem PaymentScannerConfig.lt_toBlock (cfg : PaymentScannerConfig) {last target : ℕ}
    (hlast : last ≤ i64Max) (hlt : last < target) : last < cfg.toBlock (last + 1) target := by
  unfold PaymentScannerConfig.toBlock
  have hmax : i64Max + 2 ≤ u64Max := by decide
  have hbatch : 1 ≤ max (min cfg.batchSizeBlocks cfg.maxBatchSizeBlocks) 1 := Nat.le_max_right _ _
  dsimp only
  omega

/-- The cursor a batch expects is a bigint. -/
theorem expected_le_of_commit {now : Timestamp} {batch : CommitScannedBatch}
    {result : List PaymentRecord × PaymentDb} (h : commitScannedBatch db now batch = .ok result) :
    batch.expectedLastScannedBlock ≤ i64Max := by
  unfold commitScannedBatch at h
  obtain ⟨-, h⟩ := ensure_bind_eq_ok.mp h
  obtain ⟨_, -, h⟩ := Except.bind_eq_ok.mp h
  obtain ⟨_, hlast, -⟩ := Except.bind_eq_ok.mp h
  exact (toI64_eq_ok.mp hlast).1

/-- **A tick that meets a range within the limits** moves on, or sweeps and leaves
fewer payments to confirm. -/
theorem advances_or_sweeps {head : ChainBlockRef} {last : ℕ} (hhead : source.latestHead = .ok head)
    (hlast : db.lastScanned cfg.stream = some last) (hlt : last < head.number)
    (hanswered : RangeAnswered cfg source (last + 1) (cfg.toBlock (last + 1) head.number))
    (honly : onlyLimits (tick cfg source input db).2 = true) :
    (∃ later, (tick cfg source input db).1.lastScanned cfg.stream = some later ∧ last < later)
      ∨ ((tick cfg source input db).1.lastScanned cfg.stream = some last
        ∧ (tick cfg source input db).1.observedCount cfg.stream < db.observedCount cfg.stream) := by
  unfold tick at honly ⊢
  cases hclaim : claimForTick cfg input db with
  | error e =>
    rw [hclaim] at honly
    exact absurd (claimForTick_failsOnly e hclaim) (by simpa [onlyLimits] using honly)
  | ok answer =>
    obtain ⟨lease, db₁⟩ := answer
    rw [hclaim] at honly
    cases lease with
    | none => exact absurd honly (by simp [onlyLimits])
    | some lease =>
      dsimp only at honly ⊢
      have hclaim' := claimForTick_eq_ok hclaim
      obtain ⟨hbefore, hafter⟩ := lastScanned_of_claim hclaim'
      rw [hlast] at hbefore
      have hsame : lease.lastScannedBlock = last := (Option.some.inj hbefore).symm
      cases hunder : underLease cfg source input lease db₁ with
      | error e =>
        rw [hunder] at honly
        exact absurd (underLease_failsOnly hhead (by rw [hsame]; exact hanswered) e hunder)
          (by simpa [onlyLimits] using honly)
      | ok result =>
        obtain ⟨outcome, db₂⟩ := result
        dsimp only
        have hcount : db₁.observedCount cfg.stream = db.observedCount cfg.stream := by
          rcases claimScanRange_eq_ok hclaim' with ⟨hnone, -⟩ | ⟨c, -, -, rfl⟩
          · cases hnone
          · rfl
        obtain ⟨head', hhead', hsweep | ⟨-, hscan⟩⟩ := underLease_eq_ok hunder
        · obtain ⟨_, paymentIds, records, -, -, hconfirm, hsome⟩ := sweepConfirmations_eq_ok hsweep
          cases records with
          | nil => cases hsome
          | cons r rs =>
            refine Or.inr ⟨?_, ?_⟩
            · rw [lastScanned_of_confirm hconfirm, hafter, hsame]
            · rw [← hcount]
              exact observedCount_of_confirm hconfirm
        · rw [hhead] at hhead'
          obtain rfl := Except.ok.inj hhead'
          rcases scanBatch_eq_ok hscan with ⟨hidle, -⟩ | ⟨-, matched, records, -, hcommit⟩
          · exact absurd hidle (by omega)
          · refine Or.inl ⟨_, lastScannedBlock_of_commit hcommit, ?_⟩
            have hbigint : lease.lastScannedBlock ≤ i64Max := expected_le_of_commit hcommit
            show last < cfg.toBlock (lease.lastScannedBlock + 1) head.number
            rw [hsame] at hbigint ⊢
            exact cfg.lt_toBlock hbigint hlt

/-- **So some number of ticks moves it on.** -/
theorem exists_advance {head : ChainBlockRef} {last : ℕ} (hhead : source.latestHead = .ok head)
    (hlt : last < head.number)
    (hanswered : RangeAnswered cfg source (last + 1) (cfg.toBlock (last + 1) head.number)) (k : ℕ)
    (inputs : ℕ → TickInput) (hlast : db.lastScanned cfg.stream = some last)
    (hk : db.observedCount cfg.stream ≤ k)
    (honly : ∀ n, onlyLimits (tickResult cfg source inputs n db) = true) :
    ∃ n later, (ticks cfg source inputs n db).lastScanned cfg.stream = some later
      ∧ last < later := by
  induction k generalizing db inputs with
  | zero =>
    rcases advances_or_sweeps hhead hlast hlt hanswered (honly 0) with hdone | ⟨-, hfewer⟩
    · exact ⟨1, hdone⟩
    · omega
  | succ k ih =>
    rcases advances_or_sweeps hhead hlast hlt hanswered (honly 0) with hdone | ⟨hstays, hfewer⟩
    · exact ⟨1, hdone⟩
    · obtain ⟨n, hn⟩ := ih (fun i => inputs (i + 1)) hstays (by omega) (fun n => honly (n + 1))
      exact ⟨n + 1, hn⟩

/-- **When the scanner leaves a range.** As long as nothing but a limit goes wrong
and the node gives the same answers, from any state with the cursor below the
head: some number of ticks moves the cursor up if and only if the next range, as
a whole, is answered with no more recipients than a batch and a lookup may have.
Otherwise every tick finds the same range refused. -/
theorem scanner_advances_iff (cfg : PaymentScannerConfig) (source : ChainSource)
    (inputs : ℕ → TickInput) (db : PaymentDb) {head : ChainBlockRef} {last : ℕ}
    (hhead : source.latestHead = .ok head) (hlast : db.lastScanned cfg.stream = some last)
    (hlt : last < head.number)
    (honly : ∀ n, onlyLimits (tickResult cfg source inputs n db) = true) :
    (∃ n later, (ticks cfg source inputs n db).lastScanned cfg.stream = some later ∧ last < later)
      ↔ RangeAnswered cfg source (last + 1) (cfg.toBlock (last + 1) head.number) := by
  constructor
  · rintro ⟨n, later, hlater, hmore⟩
    by_contra hrefused
    rw [lastScanned_ticks_of_refused hhead hrefused n inputs hlast] at hlater
    exact absurd (Option.some.inj hlater) (by omega)
  · intro hanswered
    exact exists_advance hhead hlt hanswered _ inputs hlast (Nat.le_refl _) honly

/-- A database a tick leaves as it is stays as it is. -/
theorem ticks_of_fixed (h : (tick cfg source input db).1 = db) (n : ℕ) :
    ticks cfg source (fun _ => input) n db = db := by
  induction n with
  | zero => rfl
  | succ n ih =>
    show ticks cfg source (fun _ => input) n (tick cfg source input db).1 = db
    rw [h, ih]

namespace SmallScanner

/-- The inputs of every tick. -/
def sameInput : TickInput := ⟨0, 0, idsFrom 0xf0⟩

/-- The tables under the lease of a tick at clock zero. -/
def underLeaseDb (db : PaymentDb) : PaymentDb :=
  db.updateCursor config.stream (ChainCursor.leased "scanner" (seconds 30))

/-- One transfer in block 1 and one, to another address, in block 2. -/
def spreadChain : CanonicalChain where
  blocks := [genesis, paid1, ⟨2, 0xa2, 2, [(0x78, .success)],
    [{ transfer with txHash := 0x78, toAddress := 0xc2 }]⟩]
  nonempty := by simp
  numbered := by decide
  mined_once := by decide
  logged_once := by decide

/-- One recipient for a batch. -/
def narrowConfig : PaymentScannerConfig := { config with maxUniqueToAddressesPerBatch := 1 }

end SmallScanner

open SmallScanner in
/-- The range of two blocks is answered, and the first tick moves over it. -/
theorem scanner_advances_two_blocks : ∃ n later,
    (ticks config (deepChain.source ⟨2, 0xa2⟩) (fun _ => sameInput) n
      (initial deepChain).db).lastScanned config.stream = some later ∧ 0 < later := by
  refine (scanner_advances_iff config (deepChain.source ⟨2, 0xa2⟩) (fun _ => sameInput)
    (initial deepChain).db rfl (by decide) (by decide) (fun n => ?_)).mpr ?_
  · -- one scan, and then nothing to do, again and again
    have hsecond : (tick config (deepChain.source ⟨2, 0xa2⟩) sameInput
        (tick config (deepChain.source ⟨2, 0xa2⟩) sameInput (initial deepChain).db).1).1
        = underLeaseDb (tick config (deepChain.source ⟨2, 0xa2⟩) sameInput
          (initial deepChain).db).1 := by decide +kernel
    have hfixed : (tick config (deepChain.source ⟨2, 0xa2⟩) sameInput (underLeaseDb
        (tick config (deepChain.source ⟨2, 0xa2⟩) sameInput (initial deepChain).db).1)).1
        = underLeaseDb (tick config (deepChain.source ⟨2, 0xa2⟩) sameInput
          (initial deepChain).db).1 := by decide +kernel
    match n with
    | 0 => decide +kernel
    | 1 => decide +kernel
    | n + 2 =>
      unfold tickResult ticks ticks
      rw [hsecond, ticks_of_fixed hfixed]
      dsimp only
      decide +kernel
  · exact ⟨[⟨⟨transfer, 1, 0xa1⟩, 1, 1⟩], by decide +kernel, by decide, by decide⟩

open SmallScanner in
/-- **Two blocks with one recipient each stop the scanner**, where a batch may have
one. Each block alone is answered and within the limit; the range of both is
refused, and every tick asks for it again. -/
theorem spread_recipients_stuck :
    (∀ n, 0 < n → n ≤ 2 → ∃ logs, (spreadChain.source ⟨2, 0xa2⟩).transferLogs
        ⟨1, 0x70, n, n, none⟩ = .ok logs
      ∧ recipientCount logs ≤ narrowConfig.maxUniqueToAddressesPerBatch)
    ∧ ∀ n, tickResult narrowConfig (spreadChain.source ⟨2, 0xa2⟩) (fun _ => sameInput) n
          (initial spreadChain).db = .error (.paymentMatching (.uniqueAddressLimitExceeded 2 1))
        ∧ (ticks narrowConfig (spreadChain.source ⟨2, 0xa2⟩) (fun _ => sameInput) n
          (initial spreadChain).db).lastScanned config.stream = some 0 := by
  refine ⟨fun n hpos hle => ?_, fun n => ?_⟩
  · have hn : n = 1 ∨ n = 2 := by omega
    rcases hn with rfl | rfl
    · exact ⟨[⟨⟨transfer, 1, 0xa1⟩, 1, 1⟩], by decide +kernel, by decide⟩
    · exact ⟨[⟨⟨{ transfer with txHash := 0x78, toAddress := 0xc2 }, 2, 0xa2⟩, 1, 2⟩],
        by decide +kernel, by decide⟩
  · have hfirst : (tick narrowConfig (spreadChain.source ⟨2, 0xa2⟩) sameInput
        (initial spreadChain).db).1 = underLeaseDb (initial spreadChain).db := by decide +kernel
    have hfixed : (tick narrowConfig (spreadChain.source ⟨2, 0xa2⟩) sameInput
        (underLeaseDb (initial spreadChain).db)).1 = underLeaseDb (initial spreadChain).db := by
      decide +kernel
    match n with
    | 0 => exact ⟨by decide +kernel, by decide⟩
    | n + 1 =>
      unfold tickResult ticks
      rw [hfirst, ticks_of_fixed hfixed]
      dsimp only
      exact ⟨by decide +kernel, by decide⟩
