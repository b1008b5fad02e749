import Pay3.ScannerMoves
import Pay3.Tiling

/-!
# The cursor protocol

A worker claims the cursor of its stream under a lease, reads the blocks above
it, and commits what it found. Leases run out and workers crash or share a
name, so many workers may hold a claim on the same cursor at once; the
position they claimed, compared at the commit, decides which of them succeeds.

A position is a block and an epoch. Every rewind raises the epoch and nothing
lowers it, so a position once left by a rewind never comes back, even when its
block does. Hence the ranges committed between two rewinds tile an interval,
and a batch claimed before a rewind is never committed after it.
-/

namespace ScannerState

/-- The last scanned block of a stream. -/
def lastScanned (s : ScannerState) (σ : StreamId) : ℕ :=
  ((s.db.position σ).map ScanCursorState.lastScannedBlock).getD 0

/-- The epoch of a stream. -/
def epoch (s : ScannerState) (σ : StreamId) : ℕ :=
  ((s.db.position σ).map ScanCursorState.seenKvReorgEpoch).getD 0

variable (sys : Deployment) (σ : StreamId)

/-- **The step rewinds the cursor**: it raises its epoch. -/
def Rewinds (s : ScannerState) (a : ScannerAction) : Prop :=
  ∃ t, step sys s a = some t ∧ s.epoch σ < t.epoch σ

/-- The range a step commits on the stream, if it commits one. -/
def committedRange (s : ScannerState) (a : ScannerAction) (t : ScannerState) : Option (ℕ × ℕ) :=
  match a with
  | .scanner w _ =>
    if (sys.scanner w).stream = σ then
      (committedScan (s.pc w) (t.pc w)).map (fun scan => (scan.lease.lastScannedBlock, scan.toBlock))
    else none
  | _ => none

/-- **The ranges a run commits on the stream**, in order. -/
def committedRanges : ScannerState → List ScannerAction → List (ℕ × ℕ)
  | _, [] => []
  | s, a :: as =>
    match step sys s a with
    | none => []
    | some t => (committedRange sys σ s a t).toList ++ committedRanges t as

/-- The worker does not begin another tick in this step. -/
def GoesOn (w : ℕ) (s : ScannerState) : ScannerAction → Prop
  | .scanner w' _ => w' = w → (s.pc w).isWaiting = false
  | _ => True

variable {sys σ} {s t u : ScannerState} {a : ScannerAction} {as : List ScannerAction}

theorem committedRanges_cons (h : step sys s a = some t) :
    committedRanges sys σ s (a :: as)
      = (committedRange sys σ s a t).toList ++ committedRanges sys σ t as := by
  show (match step sys s a with | none => _ | some t => _) = _
  rw [h]

/-- **What a step does to the position of a stream**: nothing, unless a scan of
it is committed or it is rewound. -/
theorem position_cases (h : step sys s a = some t) :
    (t.db.position σ = s.db.position σ ∧ committedRange sys σ s a t = none)
      ∨ (∃ w input scan head matched, a = .scanner w input ∧ (sys.scanner w).stream = σ
        ∧ s.pc w = .committing scan head matched ∧ committedScan (s.pc w) (t.pc w) = some scan
        ∧ scan.lease.lastScannedBlock ≤ scan.toBlock
        ∧ s.db.position σ = some ⟨scan.lease.lastScannedBlock, scan.lease.seenKvReorgEpoch⟩
        ∧ t.db.position σ = some ⟨scan.toBlock, scan.lease.seenKvReorgEpoch⟩)
      ∨ (committedRange sys σ s a t = none ∧ ∃ last seen from_ epoch, seen < epoch
        ∧ s.db.position σ = some ⟨last, seen⟩
        ∧ t.db.position σ = some ⟨min last (from_ - 1), epoch⟩) := by
  cases move_of_step h with
  | newChain _ => exact Or.inl ⟨rfl, rfl⟩
  | abort w => exact Or.inl ⟨rfl, rfl⟩
  | abortVerifier v => exact Or.inl ⟨rfl, rfl⟩
  | rewindRefused stream epoch n now => exact Or.inl ⟨rfl, rfl⟩
  | @rewind stream epoch n now db' hr =>
    obtain rfl | ⟨last, seen, hlt, hold, hnew, hother⟩ := position_of_reorg hr
    · exact Or.inl ⟨rfl, rfl⟩
    · by_cases hσ : σ = stream
      · subst hσ
        exact Or.inr (Or.inr ⟨rfl, last, seen, n, epoch, hlt, hold, hnew⟩)
      · exact Or.inl ⟨hother σ hσ, rfl⟩
  | @verifier v va db' pc' hmove =>
    refine Or.inl ⟨?_, rfl⟩
    show db'.position σ = s.db.position σ
    generalize s.verifier v = cur at hmove
    cases hmove with
    | record hr => exact position_of_record hr σ
    | _ => rfl
  | @scanner w input db' pc' hmove =>
    have hpc := afterScanner_pc_self s w db' pc'
    have hrange : committedScan (s.pc w) pc' = none →
        committedRange sys σ s (.scanner w input) (s.afterScanner w db' pc') = none := by
      intro hnone
      show (if (sys.scanner w).stream = σ then _ else _) = none
      rw [hpc, hnone]
      exact ite_self _
    show (db'.position σ = s.db.position σ ∧ _) ∨ _
    generalize hcur : s.pc w = cur at hmove hrange
    cases hmove with
    | claim hclaim => exact Or.inl ⟨position_of_claim hclaim σ, hrange rfl⟩
    | confirm tick cs hconf hpc' => exact Or.inl ⟨position_of_confirm hconf σ, hrange rfl⟩
    | heal hheal =>
      obtain rfl | ⟨last, seen, hlt, hold, hnew, hother⟩ := position_of_reorg hheal
      · exact Or.inl ⟨rfl, hrange rfl⟩
      · by_cases hσ : σ = (sys.scanner w).stream
        · subst hσ
          exact Or.inr (Or.inr ⟨hrange rfl, last, seen, _, _, hlt, hold, hnew⟩)
        · exact Or.inl ⟨hother σ hσ, hrange rfl⟩
    | @commit scan head matched records _ hcommit =>
      obtain ⟨hle, hold, hnew, hother⟩ := position_of_commit hcommit
      by_cases hσ : σ = (sys.scanner w).stream
      · subst hσ
        refine Or.inr (Or.inl ⟨w, input, scan, head, matched, rfl, rfl, hcur, ?_, hle, hold, hnew⟩)
        rw [hcur, hpc]
        rfl
      · refine Or.inl ⟨hother σ hσ, ?_⟩
        show (if (sys.scanner w).stream = σ then _ else _) = none
        exact if_neg (fun hc => hσ hc.symm)
    | stop hnot => exact Or.inl ⟨rfl, hrange hnot⟩
    | _ => exact Or.inl ⟨rfl, hrange rfl⟩

/-! ## Epochs only rise -/

/-- The numbers of a position that is known. -/
theorem lastScanned_of_position {last seen : ℕ} (h : s.db.position σ = some ⟨last, seen⟩) :
    s.lastScanned σ = last ∧ s.epoch σ = seen := by
  unfold lastScanned epoch
  rw [h]
  exact ⟨rfl, rfl⟩

/-- A position that stays keeps its numbers. -/
theorem lastScanned_congr (h : t.db.position σ = s.db.position σ) :
    t.lastScanned σ = s.lastScanned σ ∧ t.epoch σ = s.epoch σ := by
  unfold lastScanned epoch
  rw [h]
  exact ⟨rfl, rfl⟩

theorem epoch_le_of_step (h : step sys s a = some t) : s.epoch σ ≤ t.epoch σ := by
  obtain ⟨hsame, -⟩ | ⟨w, input, scan, head, matched, -, -, -, -, -, hold, hnew⟩
    | ⟨-, last, seen, n, e, hlt, hold, hnew⟩ := position_cases (σ := σ) h
  · exact Nat.le_of_eq (lastScanned_congr hsame).2.symm
  · rw [(lastScanned_of_position hold).2, (lastScanned_of_position hnew).2]
  · rw [(lastScanned_of_position hold).2, (lastScanned_of_position hnew).2]
    exact Nat.le_of_lt hlt

theorem epoch_le_of_run (hr : runSteps (step sys) s as = some u) : s.epoch σ ≤ u.epoch σ :=
  rel_of_run (I := fun _ => True) (R := fun s t => s.epoch σ ≤ t.epoch σ) (P := fun _ _ => True)
    (fun _ => Nat.le_refl _) (fun _ _ _ h h' => Nat.le_trans h h') (fun _ _ _ _ _ _ => trivial)
    (fun _ _ _ _ _ h => epoch_le_of_step h) trivial (stepsMeet_of_forall (fun _ _ => trivial) s as) hr

/-- A run that ends in the epoch it began in holds no rewind. -/
theorem no_rewind_of_epoch_eq (hr : runSteps (step sys) s as = some u)
    (h : u.epoch σ = s.epoch σ) : StepsMeet (step sys) (fun s a => ¬ Rewinds sys σ s a) s as := by
  induction as generalizing s with
  | nil => trivial
  | cons a as ih =>
    obtain ⟨t, ht, hu⟩ := runSteps_cons_eq_some.mp hr
    have hst := epoch_le_of_step (σ := σ) ht
    have htu := epoch_le_of_run (σ := σ) hu
    refine (stepsMeet_cons ht).mpr ⟨?_, ih hu (by omega)⟩
    rintro ⟨t', ht', hlt⟩
    rw [ht, Option.some.injEq] at ht'
    subst ht'
    omega

/-! ## Tiling -/

/-- **Between two rewinds, the committed ranges tile** what the cursor has
moved over. -/
theorem tiles_of_run (hr : runSteps (step sys) s as = some u)
    (hno : StepsMeet (step sys) (fun s a => ¬ Rewinds sys σ s a) s as) :
    Tiles (s.lastScanned σ) (committedRanges sys σ s as) (u.lastScanned σ) := by
  induction as generalizing s with
  | nil =>
    obtain rfl := Option.some.inj hr
    exact .nil _
  | cons a as ih =>
    obtain ⟨t, ht, hu⟩ := runSteps_cons_eq_some.mp hr
    obtain ⟨hnot, hrest⟩ := (stepsMeet_cons ht).mp hno
    have htail := ih hu hrest
    rw [committedRanges_cons ht]
    obtain ⟨hsame, hnone⟩ | ⟨w, input, scan, head, matched, rfl, hσ, hpc, hcommit, hle, hold, hnew⟩
      | ⟨-, last, seen, n, e, hlt, hold, hnew⟩ := position_cases (σ := σ) ht
    · rw [hnone, ← (lastScanned_congr hsame).1]
      exact htail
    · have hrange : committedRange sys σ s (.scanner w input) t
          = some (scan.lease.lastScannedBlock, scan.toBlock) := by
        show (if (sys.scanner w).stream = σ then _ else _) = _
        rw [if_pos hσ, hcommit]
        rfl
      rw [(lastScanned_of_position hnew).1] at htail
      rw [hrange, (lastScanned_of_position hold).1]
      exact .cons hle htail
    · refine absurd ⟨t, ht, ?_⟩ hnot
      rw [(lastScanned_of_position hold).2, (lastScanned_of_position hnew).2]
      exact hlt

/-! ## From a claim to its commit -/

end ScannerState

/-- The lease a scanner works under. -/
def ScannerPc.lease? : ScannerPc → Option ScanCursorLease
  | .claimed lease => some lease
  | .targeted tick | .sweeping tick _ _ | .checking tick _ _ _ _ _ | .confirming tick _ _ _
  | .scanning tick => some tick.lease
  | .fetching scan _ _ | .fetched scan _ | .matching scan _ _ | .committing scan _ _ =>
    some scan.lease
  | .waiting _ | .mismatched _ | .healing _ _ => none

/-- A tick keeps the lease it began with, or gives it up. -/
theorem ScannerMove.lease {cfg : PaymentScannerConfig} {db db' : PaymentDb}
    {chain : CanonicalChain} {input : StepInput} {pc pc' : ScannerPc}
    (h : ScannerMove cfg db chain input pc db' pc') (hpc : pc.isWaiting = false) :
    pc'.lease? = none ∨ pc'.lease? = pc.lease? := by
  cases h with
  | claim _ => cases hpc
  | confirm tick cs _ hpc' =>
    rcases hpc' with rfl | ⟨result, rfl⟩
    · exact Or.inr rfl
    · exact Or.inl rfl
  | stop _ => exact Or.inl rfl
  | mismatch => exact Or.inl rfl
  | readEpoch => exact Or.inl rfl
  | heal _ => exact Or.inl rfl
  | commit => exact Or.inl rfl
  | _ => exact Or.inr rfl

namespace ScannerState

variable {sys : Deployment} {σ : StreamId} {s t u : ScannerState} {a : ScannerAction}
variable {as : List ScannerAction} {w : ℕ}

/-- While a worker does not begin another tick, any lease it holds is the one it
held. -/
theorem lease_of_run {lease : ScanCursorLease} (hr : runSteps (step sys) s as = some u)
    (hgo : StepsMeet (step sys) (GoesOn w) s as)
    (hs : (s.pc w).lease? = none ∨ (s.pc w).lease? = some lease) :
    (u.pc w).lease? = none ∨ (u.pc w).lease? = some lease := by
  refine inv_of_run (I := fun s => (s.pc w).lease? = none ∨ (s.pc w).lease? = some lease)
    (P := GoesOn w) ?_ hs hgo hr
  intro s a t hs hgo hst
  cases move_of_step hst with
  | @scanner w' input db' pc' hmove =>
    by_cases hw : w = w'
    · subst hw
      rw [afterScanner_pc_self]
      rcases hmove.lease (hgo rfl) with hnone | hsame
      · exact Or.inl hnone
      · rw [hsame]
        exact hs
    · rw [afterScanner_pc_of_ne s hw]
      exact hs
  | abort w' =>
    show ScannerPc.lease? (Function.update s.pc w' _ w) = none
      ∨ ScannerPc.lease? (Function.update s.pc w' _ w) = some lease
    by_cases hw : w = w'
    · subst hw
      rw [Function.update_self]
      exact Or.inl rfl
    · rw [Function.update_of_ne hw]
      exact hs
  | _ => exact hs

/-- The lease a claim returns has the position of the cursor, which the claim
leaves where it is. -/
theorem position_of_claimed {input : StepInput} {lease : ScanCursorLease}
    (h : step sys s (.scanner w input) = some t) (hpc : t.pc w = .claimed lease) :
    t.db.position (sys.scanner w).stream
      = some ⟨lease.lastScannedBlock, lease.seenKvReorgEpoch⟩ := by
  cases move_of_step h with
  | @scanner _ _ db' pc' hmove =>
    have hpc' : pc' = .claimed lease := by
      rw [← hpc, afterScanner_pc_self]
    subst hpc'
    show db'.position _ = _
    generalize s.pc w = cur at hmove
    cases hmove with
    | claim hclaim =>
      rw [position_of_claim hclaim]
      obtain ⟨hnone, -⟩ | ⟨c, hc, hlease, -⟩ := claimScanRange_eq_ok hclaim
      · cases hnone
      · obtain rfl := Option.some.inj hlease
        unfold PaymentDb.position
        rw [hc]
        rfl
    | confirm tick cs _ hpc' =>
      rcases hpc' with hpc' | ⟨result, hpc'⟩
      · cases hpc'
      · cases hpc'

/-- **A batch committed was claimed in the same epoch**, with no rewind in
between. -/
theorem no_rewind_of_commit {input input' : StepInput} {lease : ScanCursorLease} {scan : Scan}
    {v : ScannerState} (hclaim : step sys s (.scanner w input) = some t)
    (hpc : t.pc w = .claimed lease) (hr : runSteps (step sys) t as = some u)
    (hgo : StepsMeet (step sys) (GoesOn w) t as)
    (hcommit : step sys u (.scanner w input') = some v)
    (hscan : committedScan (u.pc w) (v.pc w) = some scan) :
    scan.lease = lease
      ∧ StepsMeet (step sys) (fun s a => ¬ Rewinds sys (sys.scanner w).stream s a) t as := by
  have hnone : committedRange sys (sys.scanner w).stream u (.scanner w input') v ≠ none := by
    show (if (sys.scanner w).stream = (sys.scanner w).stream then _ else _) ≠ none
    rw [if_pos rfl, hscan]
    exact Option.some_ne_none _
  obtain ⟨-, hno⟩ | ⟨w', input'', scan', head, matched, hact, -, hu, hscan', -, hold, -⟩
    | ⟨hno, -⟩ := position_cases (σ := (sys.scanner w).stream) hcommit
  · exact absurd hno hnone
  · obtain ⟨rfl, -⟩ := ScannerAction.scanner.inj hact
    rw [hscan, Option.some.injEq] at hscan'
    subst hscan'
    have hlease := lease_of_run hr hgo (Or.inr (by rw [hpc]; rfl) : _ ∨ (t.pc w).lease? = some lease)
    rw [hu] at hlease
    have heq : scan.lease = lease := by
      rcases hlease with h | h
      · cases h
      · exact Option.some.inj h
    refine ⟨heq, no_rewind_of_epoch_eq hr ?_⟩
    rw [(lastScanned_of_position hold).2,
      (lastScanned_of_position (position_of_claimed hclaim hpc)).2, heq]
  · exact absurd hno hnone

/-! ## The protocol -/

/-- **The cursor protocol**, in every state of every run: a commit that succeeds
covers exactly the blocks above the cursor as it is then, between two rewinds
the committed ranges tile an interval with no gap and no overlap, and what was
claimed before a rewind is not committed after it. -/
theorem cursorProtocol_of_run {s₀ : ScannerState} {pre : List ScannerAction}
    (hinit : s₀.Initial) (hpre : runSteps (step sys) s₀ pre = some s) :
    (∀ w input scan t, step sys s (.scanner w input) = some t →
        committedScan (s.pc w) (t.pc w) = some scan →
        s.db.position (sys.scanner w).stream
            = some ⟨scan.lease.lastScannedBlock, scan.lease.seenKvReorgEpoch⟩
          ∧ t.db.position (sys.scanner w).stream
            = some ⟨scan.toBlock, scan.lease.seenKvReorgEpoch⟩
          ∧ ∃ head matched, s.pc w = .committing scan head matched ∧ ∀ m ∈ matched,
            scan.lease.lastScannedBlock < m.blockNumber ∧ m.blockNumber ≤ scan.toBlock)
      ∧ (∀ σ as u, runSteps (step sys) s as = some u →
        StepsMeet (step sys) (fun s a => ¬ Rewinds sys σ s a) s as →
        Tiles (s.lastScanned σ) (committedRanges sys σ s as) (u.lastScanned σ)
          ∧ ∀ n, (committedRanges sys σ s as).countP (covers n)
            = if s.lastScanned σ < n ∧ n ≤ u.lastScanned σ then 1 else 0)
      ∧ ∀ w input input' lease scan t as u v, step sys s (.scanner w input) = some t →
        t.pc w = .claimed lease → runSteps (step sys) t as = some u →
        StepsMeet (step sys) (GoesOn w) t as → step sys u (.scanner w input') = some v →
        committedScan (u.pc w) (v.pc w) = some scan →
        scan.lease = lease
          ∧ StepsMeet (step sys) (fun s a => ¬ Rewinds sys (sys.scanner w).stream s a) t as := by
  refine ⟨fun w input scan t hst hscan => ?_, fun σ as u hr hno => ?_, ?_⟩
  · have hfaithful := faithful_of_run hinit hpre w
    have hnone : committedRange sys (sys.scanner w).stream s (.scanner w input) t ≠ none := by
      show (if (sys.scanner w).stream = (sys.scanner w).stream then _ else _) ≠ none
      rw [if_pos rfl, hscan]
      exact Option.some_ne_none _
    obtain ⟨-, hno⟩ | ⟨w', input', scan', head, matched, hact, -, hpc, hscan', -, hold, hnew⟩
      | ⟨hno, -⟩ := position_cases (σ := (sys.scanner w).stream) hst
    · exact absurd hno hnone
    · obtain ⟨rfl, -⟩ := ScannerAction.scanner.inj hact
      rw [hscan, Option.some.injEq] at hscan'
      subst hscan'
      rw [hpc] at hfaithful
      refine ⟨hold, hnew, head, matched, hpc, fun m hm => ?_⟩
      obtain ⟨-, hlo, hhi, -⟩ := mem_matched_of_faithful hfaithful hm
      exact ⟨hlo, hhi⟩
    · exact absurd hno hnone
  · exact ⟨tiles_of_run hr hno, (tiles_of_run hr hno).countP_covers⟩
  · intro w input input' lease scan t as u v hclaim hpc hr hgo hcommit hscan
    exact no_rewind_of_commit hclaim hpc hr hgo hcommit hscan

/-- Two scanners of one name have claimed and read the same blocks. The one that
commits first does so from the position both claimed. -/
theorem cursorProtocol_of_shared_name :
    ∃ s t scan, runSteps (step SmallScanner.sys) (SmallScanner.initial SmallScanner.paidChain)
        (SmallScanner.steps 0 9 ++ SmallScanner.steps 1 9) = some s
      ∧ step SmallScanner.sys s (.scanner 1 (SmallScanner.input 1)) = some t
      ∧ committedScan (s.pc 1) (t.pc 1) = some scan
      ∧ s.db.position SmallScanner.stream
        = some ⟨scan.lease.lastScannedBlock, scan.lease.seenKvReorgEpoch⟩
      ∧ t.db.position SmallScanner.stream
        = some ⟨scan.toBlock, scan.lease.seenKvReorgEpoch⟩ := by
  have hall : ((runSteps (step SmallScanner.sys) (SmallScanner.initial SmallScanner.paidChain)
      (SmallScanner.steps 0 9 ++ SmallScanner.steps 1 9)).bind (fun s =>
        (step SmallScanner.sys s (.scanner 1 (SmallScanner.input 1))).bind (fun t =>
          committedScan (s.pc 1) (t.pc 1)))).isSome = true := by decide
  obtain ⟨scan, hscan⟩ := Option.isSome_iff_exists.mp hall
  obtain ⟨s, hs, hscan⟩ := Option.bind_eq_some_iff.mp hscan
  obtain ⟨t, ht, hscan⟩ := Option.bind_eq_some_iff.mp hscan
  obtain ⟨hcommit, -, -⟩ := cursorProtocol_of_run (SmallScanner.initial_initial _) hs
  obtain ⟨hold, hnew, -⟩ := hcommit 1 _ scan t ht hscan
  exact ⟨s, t, scan, hs, ht, hscan, hold, hnew⟩

end ScannerState
