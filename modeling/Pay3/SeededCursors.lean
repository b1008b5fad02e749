import Pay3.CursorProtocol
import Pay3.ReorgHealing

/-!
# Nothing is left unscanned

The cursor of a stream stores the last block that was scanned, and a scan begins
one block above it. A new stream is seeded one block below its first block, and a
rewind goes one block below the first block it orphans. Neither is possible at
block zero: there both stop at zero, and block zero counts as scanned although no
scan ever begins there.

From block one on nothing is left out: every block between the first one and the
cursor was covered by a committed range, and what a rewind orphans lies above the
cursor it leaves.
-/

/-- `MigrationBootstrapError`, the part seeding a cursor can end in. -/
inductive MigrationBootstrapError
  | integerOutOfRange
  deriving DecidableEq

/-- **`seed_token_chain_cursor`**: a stream that has no cursor yet gets one. -/
def seedTokenChainCursor (db : PaymentDb) (stream : StreamId) (startBlock : ℕ) :
    Except MigrationBootstrapError PaymentDb := do
  ensure (decide (stream.chainId ≤ i64Max)) .integerOutOfRange
  ensure (decide (startBlock ≤ i64Max)) .integerOutOfRange
  pure (match db.cursor? stream with
    | some _ => db
    | none => { db with
      cursors := db.cursors ++ [⟨stream.chainId, stream.tokenAddress,
        seedLastScannedBlock startBlock, 0, none, none⟩] })

/-- A new cursor is one block below the first one. -/
theorem position_of_seed {db db' : PaymentDb} {stream : StreamId} {startBlock : ℕ}
    (hfresh : db.cursor? stream = none)
    (hseed : seedTokenChainCursor db stream startBlock = .ok db') :
    db'.position stream = some ⟨startBlock - 1, 0⟩ := by
  unfold seedTokenChainCursor at hseed
  obtain ⟨-, hseed⟩ := ensure_bind_eq_ok.mp hseed
  obtain ⟨-, hseed⟩ := ensure_bind_eq_ok.mp hseed
  rw [hfresh] at hseed
  obtain rfl := Except.pure_eq_ok.mp hseed
  unfold PaymentDb.position PaymentDb.cursor?
  rw [List.find?_append, show db.cursors.find? _ = none from hfresh]
  simp [ChainCursor.stream, seedLastScannedBlock]

/-- **The row is orphaned between two states**: the same row of the table was not
orphaned before and is afterwards. -/
def OrphanedBetween (db db' : PaymentDb) (p : PaymentRecord) : Prop :=
  ∃ (i : ℕ) (p' : PaymentRecord), db.payments[i]? = some p ∧ db'.payments[i]? = some p'
    ∧ p.chainStatus ≠ .orphaned ∧ p'.chainStatus = .orphaned

/-- **What a rewind orphans lies above the cursor it leaves**, so that it is read
again. -/
def OrphansAbove (stream : StreamId) (db db' : PaymentDb) : Prop :=
  ∀ p, OrphanedBetween db db' p → db'.lastScannedBlock stream < p.blockNumber

/-- The epoch was seen before, the rewind begins above block zero, or no payment of the
stream is in block zero. -/
def RewindsAboveZero (stream : StreamId) (db : PaymentDb) (epoch lastReorgFrom : ℕ) : Prop :=
  (∃ c, db.cursor? stream = some c ∧ epoch ≤ c.seenKvReorgEpoch) ∨ lastReorgFrom ≠ 0
    ∨ ∀ p ∈ db.payments, p.isLiveOf stream = true → p.blockNumber ≠ 0

/-- The rows an update orphans are those it selects. -/
theorem orphanedBetween_iff {db db' : PaymentDb} {stream : StreamId} {n : ℕ}
    (h : db'.payments = updateWhere (orphanSelects stream n) orphanRow db.payments)
    {p : PaymentRecord} :
    OrphanedBetween db db' p ↔ p ∈ db.payments ∧ orphanSelects stream n p = true := by
  have hrow : ∀ i : ℕ, db'.payments[i]? = (db.payments[i]?).map
      (fun p => if orphanSelects stream n p then orphanRow p else p) := by
    intro i
    rw [h]
    exact List.getElem?_map
  constructor
  · rintro ⟨i, p', hp, hp', hlive, horphaned⟩
    refine ⟨List.mem_of_getElem? hp, ?_⟩
    rw [hrow i, hp] at hp'
    obtain rfl := Option.some.inj hp'
    by_contra hnot
    dsimp only at horphaned
    rw [if_neg hnot] at horphaned
    exact hlive horphaned
  · rintro ⟨hp, hsel⟩
    obtain ⟨i, hi⟩ := List.mem_iff_getElem?.mp hp
    refine ⟨i, orphanRow p, hi, ?_, ?_, rfl⟩
    · rw [hrow i, hi, Option.map_some, if_pos hsel]
    · unfold orphanSelects at hsel
      simp only [Bool.and_eq_true, Bool.not_eq_true', decide_eq_false_iff_not] at hsel
      exact hsel.2

/-- **A rewind orphans nothing below its cursor** exactly when it does not reach a payment
in block zero. -/
theorem orphansAbove_iff {db db' : PaymentDb} {now : Timestamp} {stream : StreamId}
    {epoch lastReorgFrom : ℕ}
    (h : handleKvReorgEpoch db now stream epoch lastReorgFrom = .ok db') :
    OrphansAbove stream db db' ↔ RewindsAboveZero stream db epoch lastReorgFrom := by
  obtain ⟨c, hc, ⟨hseen, rfl⟩ | ⟨hseen, orderIds, -, -, hdb⟩⟩ := handleKvReorgEpoch_eq_ok h
  · refine iff_of_true ?_ (Or.inl ⟨c, hc, hseen⟩)
    rintro p ⟨i, p', hp, hp', hlive, horphaned⟩
    rw [hp] at hp'
    obtain rfl := Option.some.inj hp'
    exact absurd horphaned hlive
  · have hpayments : db'.payments
        = updateWhere (orphanSelects stream lastReorgFrom) orphanRow db.payments := by
      rw [hdb]
      rfl
    have hlast : db'.lastScannedBlock stream = min c.lastScannedBlock (lastReorgFrom - 1) := by
      have hc' : PaymentDb.cursor? { db with
          payments := updateWhere (orphanSelects stream lastReorgFrom) orphanRow db.payments }
          stream = some c := hc
      unfold PaymentDb.lastScannedBlock PaymentDb.position
      rw [hdb, PaymentDb.recomputed_cursor?, PaymentDb.cursor?_updateCursor_self
        (ChainCursor.rewound_stream epoch lastReorgFrom) hc']
      rfl
    unfold OrphansAbove
    simp only [orphanedBetween_iff hpayments, hlast]
    constructor
    · intro habove
      by_cases hzero : lastReorgFrom = 0
      · refine Or.inr (Or.inr (fun p hp hlive hblock => ?_))
        have hsel : orphanSelects stream lastReorgFrom p = true := by
          unfold PaymentRecord.isLiveOf at hlive
          unfold orphanSelects
          simp only [Bool.and_eq_true, decide_eq_true_eq] at hlive ⊢
          exact ⟨⟨hlive.1, by omega⟩, hlive.2⟩
        have hlt := habove p ⟨hp, hsel⟩
        omega
      · exact Or.inr (Or.inl hzero)
    · rintro (⟨c', hc', hseen'⟩ | habove) p ⟨hp, hsel⟩
      · rw [hc] at hc'
        obtain rfl := Option.some.inj hc'
        omega
      · unfold orphanSelects at hsel
        simp only [Bool.and_eq_true, decide_eq_true_eq] at hsel
        rcases habove with habove | habove
        · omega
        · have hlive : p.isLiveOf stream = true := by
            unfold PaymentRecord.isLiveOf
            simp only [Bool.and_eq_true, decide_eq_true_eq]
            exact ⟨hsel.1.1, hsel.2⟩
          have hblock := habove p hp hlive
          omega

namespace ScannerState

variable {sys : Deployment} {σ : StreamId} {s t u : ScannerState} {as : List ScannerAction}

/-- **Every block the cursor has passed was committed**: with or without rewinds, the
blocks above where the cursor began and up to where it is are covered by the ranges
committed on the way. -/
theorem covered_of_run (hr : runSteps (step sys) s as = some u) {n : ℕ}
    (hlo : s.lastScanned σ < n) (hhi : n ≤ u.lastScanned σ) :
    ∃ r ∈ committedRanges sys σ s as, covers n r = true := by
  induction as generalizing s with
  | nil =>
    obtain rfl := Option.some.inj hr
    omega
  | cons a as ih =>
    obtain ⟨t, ht, hu⟩ := runSteps_cons_eq_some.mp hr
    rw [committedRanges_cons ht]
    have hlater : t.lastScanned σ < n →
        ∃ r ∈ (committedRange sys σ s a t).toList ++ committedRanges sys σ t as,
          covers n r = true := by
      intro hlt
      obtain ⟨r, hr, hcovers⟩ := ih hu hlt
      exact ⟨r, List.mem_append_right _ hr, hcovers⟩
    obtain ⟨hsame, -⟩ | ⟨w, input, scan, head, matched, rfl, hσ, -, hcommit, -, hold, hnew⟩
      | ⟨-, last, seen, from_, e, -, hold, hnew⟩ := position_cases (σ := σ) ht
    · exact hlater ((lastScanned_congr hsame).1.symm ▸ hlo)
    · rw [(lastScanned_of_position hold).1] at hlo
      have hnow := (lastScanned_of_position hnew).1
      by_cases hthis : n ≤ scan.toBlock
      · have hrange : committedRange sys σ s (.scanner w input) t
            = some (scan.lease.lastScannedBlock, scan.toBlock) := by
          show (if (sys.scanner w).stream = σ then _ else _) = _
          rw [if_pos hσ, hcommit]
          rfl
        refine ⟨(scan.lease.lastScannedBlock, scan.toBlock), ?_, ?_⟩
        · rw [hrange]
          exact List.mem_append_left _ (List.mem_singleton_self _)
        · unfold covers
          simp [hlo, hthis]
      · exact hlater (by omega)
    · rw [(lastScanned_of_position hold).1] at hlo
      have hnow := (lastScanned_of_position hnew).1
      exact hlater (by omega)

/-- No committed range covers block zero. -/
theorem not_covers_zero (r : ℕ × ℕ) : covers 0 r = false := by
  unfold covers
  simp

/-- **Rewinds leave nothing unscanned.** Along every run from a freshly seeded stream,
every block from the first one up to the cursor is covered by a committed range exactly
when the first block is not block zero; and a call of `handle_kv_reorg_epoch` in any state
of the run orphans only what lies above its cursor, exactly when it does not reach a
payment in block zero. -/
theorem nothing_unscanned_iff {db : PaymentDb} {startBlock : ℕ} {s₀ : ScannerState}
    (hfresh : db.cursor? σ = none) (hseed : seedTokenChainCursor db σ startBlock = .ok s₀.db)
    (hr : runSteps (step sys) s₀ as = some s) :
    ((∀ n, startBlock ≤ n → n ≤ s.lastScanned σ →
        ∃ r ∈ committedRanges sys σ s₀ as, covers n r = true) ↔ startBlock ≠ 0)
      ∧ ∀ now epoch lastReorgFrom db',
        handleKvReorgEpoch s.db now σ epoch lastReorgFrom = .ok db' →
          (OrphansAbove σ s.db db' ↔ RewindsAboveZero σ s.db epoch lastReorgFrom) := by
  refine ⟨⟨fun hcovered hzero => ?_, fun hstart n hn hhi => ?_⟩,
    fun now epoch lastReorgFrom db' h => orphansAbove_iff h⟩
  · obtain ⟨r, -, hr⟩ := hcovered 0 (by omega) (Nat.zero_le _)
    rw [not_covers_zero] at hr
    cases hr
  · have hlast := (lastScanned_of_position (position_of_seed hfresh hseed)).1
    exact covered_of_run hr (by omega) hhi

end ScannerState

namespace SmallScanner

open ScannerState

/-- A stream that begins at block one: the scan of block one is committed, and a rewind to
block one orphans the payment there, above the cursor. -/
theorem nothing_unscanned_from_one :
    ∃ s db', runSteps (step sys) (initial paidChain) (steps 0 10) = some s
      ∧ (∀ n, 1 ≤ n → n ≤ s.lastScanned stream →
        ∃ r ∈ committedRanges sys stream (initial paidChain) (steps 0 10), covers n r = true)
      ∧ s.lastScanned stream = 1
      ∧ handleKvReorgEpoch s.db 0 stream 1 1 = .ok db' ∧ OrphansAbove stream s.db db' := by
  have hend : ((runSteps (step sys) (initial paidChain) (steps 0 10)).map (fun s =>
      (s.lastScanned stream, (handleKvReorgEpoch s.db 0 stream 1 1).toOption.isSome)))
      = some (1, true) := by decide +kernel
  obtain ⟨s, hs, hend⟩ := Option.map_eq_some_iff.mp hend
  obtain ⟨hlast, hrewind⟩ := Prod.mk.inj hend
  obtain ⟨db', hdb'⟩ := Option.isSome_iff_exists.mp hrewind
  have hok := Except.toOption_eq_some.mp hdb'
  have hfresh : PaymentDb.cursor? { (initial paidChain).db with cursors := [] } stream = none := rfl
  have hall := nothing_unscanned_iff hfresh (rfl : seedTokenChainCursor
    { (initial paidChain).db with cursors := [] } stream 1 = .ok (initial paidChain).db) hs
  exact ⟨s, db', hs, hall.1.mpr (by decide), hlast, hok,
    (hall.2 0 1 1 db' hok).mpr (Or.inr (Or.inl (by decide)))⟩

/-- **A stream that begins at block zero** is seeded with block zero as scanned. Block one is
scanned and committed; no range ever covers block zero. -/
theorem block_zero_unscanned :
    seedTokenChainCursor { (initial paidChain).db with cursors := [] } stream 0
        = .ok (initial paidChain).db
      ∧ ∃ s, runSteps (step sys) (initial paidChain) (steps 0 10) = some s
        ∧ s.lastScanned stream = 1
        ∧ ¬ ∃ r ∈ committedRanges sys stream (initial paidChain) (steps 0 10),
          covers 0 r = true := by
  refine ⟨rfl, ?_⟩
  have hend : (runSteps (step sys) (initial paidChain) (steps 0 10)).map
      (fun s => s.lastScanned stream) = some 1 := by decide +kernel
  obtain ⟨s, hs, hlast⟩ := Option.map_eq_some_iff.mp hend
  refine ⟨s, hs, hlast, ?_⟩
  rintro ⟨r, -, hr⟩
  rw [not_covers_zero] at hr
  cases hr

end SmallScanner
