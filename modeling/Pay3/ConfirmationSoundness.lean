import Pay3.ScannerMoves

/-!
# On what grounds a payment is confirmed

A payment becomes confirmed in one of three ways: it is stored as confirmed by
a scan or by a manual verification, which both take its block and its depth
from what they have just read, or it is confirmed by a sweep.

A sweep works in two parts. It reads observed payments and compares their
blocks with the chain, and then it confirms the ones that passed, by id. An id
names a row and not a block: when a scan or a verification stores the same
transfer from another block in between, the row the sweep confirms is not the
row it has checked. So the sweep is sound for the rows that are still as it
read them, and that is the condition under which a run is.
-/

/-! ## The operation a step belongs to -/

/-- What an operation confirms payments on the grounds of. -/
structure Operation where
  who : Worker
  head : ChainBlockRef
  minConfirmations : ℕ

/-- The head a scanner is about to confirm payments under. -/
def ScannerPc.operationHead? : ScannerPc → Option ChainBlockRef
  | .confirming _ head _ _ => some head
  | .committing _ head _ => some head
  | _ => none

/-- The head a verification is about to record payments under. -/
def VerifyPc.operationHead? : VerifyPc → Option ChainBlockRef
  | .checking v _ _ => some v.head
  | _ => none

/-- **The rows a sweep is about to confirm are still in the blocks it read them
in.** -/
def ScannerPc.StillAsChecked (stream : StreamId) (payments : List PaymentRecord) :
    ScannerPc → Prop
  | .confirming _ head candidates ids => ∀ row ∈ payments,
      confirmSelects ⟨stream, ids, head⟩ row = true →
      ∀ c ∈ candidates, c.paymentId = row.id → c.block = row.block
  | _ => True

instance (stream : StreamId) (payments : List PaymentRecord) :
    (pc : ScannerPc) → Decidable (pc.StillAsChecked stream payments)
  | .confirming _ head candidates ids => inferInstanceAs (Decidable (∀ row ∈ payments,
      confirmSelects ⟨stream, ids, head⟩ row = true →
      ∀ c ∈ candidates, c.paymentId = row.id → c.block = row.block))
  | .waiting _ | .claimed _ | .targeted _ | .sweeping _ _ _ | .checking _ _ _ _ _ _
  | .mismatched _ | .healing _ _ | .scanning _ | .fetching _ _ _ | .fetched _ _ | .matching _ _ _
  | .committing _ _ _ => inferInstanceAs (Decidable True)

namespace ScannerState

variable (sys : Deployment)

/-- The operation a step that can confirm payments belongs to. -/
def operation? (s : ScannerState) : ScannerAction → Option Operation
  | .scanner w _ => (s.pc w).operationHead?.map
      (fun head => ⟨.scanner w, head, (sys.scanner w).minConfirmations⟩)
  | .verifier v _ => (s.verifier v).operationHead?.map
      (fun head => ⟨.verifier v, head, sys.verify.minConfirmations⟩)
  | _ => none

/-- **Whatever the step confirms is sound**: a row that is confirmed after it and
was not there before names a block that was canonical at some moment of the
operation, deep enough under the head the operation used. -/
def SoundConfirmations (s : ScannerState) (a : ScannerAction) : Prop :=
  ∀ t, step sys s a = some t → ∀ row ∈ t.db.payments, row.chainStatus = .confirmed →
    row ∉ s.db.payments → ∃ op, operation? sys s a = some op
      ∧ (∃ chain ∈ s.watched op.who, chain.IsCanonical row.block)
      ∧ row.block.hasConfirmations op.head op.minConfirmations = true

/-- The step, if it confirms what a sweep has checked, finds it as it was. -/
def StillAsChecked (s : ScannerState) : ScannerAction → Prop
  | .scanner w _ => (s.pc w).StillAsChecked (sys.scanner w).stream s.db.payments
  | _ => True

instance (s : ScannerState) : (a : ScannerAction) → Decidable (s.StillAsChecked sys a)
  | .scanner w _ => inferInstanceAs
      (Decidable ((s.pc w).StillAsChecked (sys.scanner w).stream s.db.payments))
  | .newChain _ | .abort _ | .verifier _ _ | .abortVerifier _ | .rewind _ _ _ _ =>
    inferInstanceAs (Decidable True)

end ScannerState

/-! ## What a worker knows -/

/-- A block that was canonical while the worker was watching. -/
def SeenCanonical (watched : List CanonicalChain) (b : ChainBlockRef) : Prop :=
  ∃ chain ∈ watched, chain.IsCanonical b

theorem SeenCanonical.cons {watched : List CanonicalChain} {b : ChainBlockRef}
    (h : SeenCanonical watched b) (chain : CanonicalChain) : SeenCanonical (chain :: watched) b := by
  obtain ⟨c, hc, hb⟩ := h
  exact ⟨c, List.mem_cons_of_mem chain hc, hb⟩

/-- A payment the sweep has passed: one of its candidates, in a block that was
canonical and is deep enough. -/
def Passed (cfg : PaymentScannerConfig) (watched : List CanonicalChain) (head : ChainBlockRef)
    (candidates : List PaymentConfirmationCandidate) (id : Uuid) : Prop :=
  ∃ c ∈ candidates, c.paymentId = id ∧ SeenCanonical watched c.block
    ∧ c.block.hasConfirmations head cfg.minConfirmations = true

/-- **What a scanner holds is grounded** in chains it has watched. -/
def ScannerPc.Grounded (cfg : PaymentScannerConfig) (watched : List CanonicalChain) :
    ScannerPc → Prop
  | .checking _ head candidates todo blocks ids => (∀ c ∈ todo, c ∈ candidates)
      ∧ (∀ b ∈ blocks, SeenCanonical watched b) ∧ ∀ id ∈ ids, Passed cfg watched head candidates id
  | .confirming _ head candidates ids => ∀ id ∈ ids, Passed cfg watched head candidates id
  | .fetching scan _ _ => scan.source ∈ watched
  | .fetched scan _ => scan.source ∈ watched
  | .matching scan _ _ => scan.source ∈ watched
  | .committing scan _ _ => scan.source ∈ watched
  | _ => True

/-- What a verification holds is grounded in chains it has watched. -/
def VerifyPc.Grounded (cfg : ManualVerifyConfig) (watched : List CanonicalChain) : VerifyPc → Prop
  | .fetching v _ _ => v.source ∈ watched
  | .checking v matched _ => ∀ m ∈ matched, SeenCanonical watched m.block
      ∧ (m.chainStatus = .confirmed →
        m.block.hasConfirmations v.head cfg.minConfirmations = true)
  | _ => True

/-- A worker that goes on watching keeps its grounds. -/
theorem ScannerPc.Grounded.cons {cfg : PaymentScannerConfig} {watched : List CanonicalChain}
    {pc : ScannerPc} (h : pc.Grounded cfg watched) (chain : CanonicalChain) :
    pc.Grounded cfg (chain :: watched) := by
  have hpassed : ∀ {head candidates id}, Passed cfg watched head candidates id →
      Passed cfg (chain :: watched) head candidates id := by
    rintro head candidates id ⟨c, hc, hid, hseen, hdeep⟩
    exact ⟨c, hc, hid, hseen.cons chain, hdeep⟩
  cases pc with
  | checking tick head candidates todo blocks ids =>
    obtain ⟨htodo, hblocks, hids⟩ := h
    exact ⟨htodo, fun b hb => (hblocks b hb).cons chain, fun id hid => hpassed (hids id hid)⟩
  | confirming tick head candidates ids => exact fun id hid => hpassed (h id hid)
  | fetching scan pending headers => exact List.mem_cons_of_mem chain h
  | fetched scan logs => exact List.mem_cons_of_mem chain h
  | matching scan logs head => exact List.mem_cons_of_mem chain h
  | committing scan head matched => exact List.mem_cons_of_mem chain h
  | _ => trivial

theorem VerifyPc.Grounded.cons {cfg : ManualVerifyConfig} {watched : List CanonicalChain}
    {pc : VerifyPc} (h : pc.Grounded cfg watched) (chain : CanonicalChain) :
    pc.Grounded cfg (chain :: watched) := by
  cases pc with
  | fetching v pending headers => exact List.mem_cons_of_mem chain h
  | checking v matched todo => exact fun m hm => ⟨(h m hm).1.cons chain, (h m hm).2⟩
  | _ => trivial

/-- The block a sweep compares with was canonical, now or when it was first
asked for, and has the number asked for. -/
theorem canonicalBlock_eq_some {chain : CanonicalChain} {blocks : List ChainBlockRef} {n : ℕ}
    {block : ChainBlockRef} (h : canonicalBlock chain blocks n = some block) :
    block.number = n ∧ (block ∈ blocks ∨ chain.IsCanonical block) := by
  unfold canonicalBlock at h
  cases hfind : blocks.find? (fun b => decide (b.number = n)) with
  | some b =>
    rw [hfind] at h
    obtain rfl := Option.some.inj h
    obtain ⟨hmem, hnum⟩ := mem_of_find?_key hfind
    exact ⟨hnum, Or.inl hmem⟩
  | none =>
    rw [hfind] at h
    obtain ⟨b, hb, rfl⟩ := Option.map_eq_some_iff.mp h
    have hnum := CanonicalChain.number_of_blockByNumber hb
    refine ⟨hnum, Or.inr ?_⟩
    unfold CanonicalChain.IsCanonical CanonicalChain.hashAt
    rw [show (ChainBlock.blockRef b).number = n from hnum, hb]
    rfl

/-- A move keeps the grounds: what is new was read off the chain as it is. -/
theorem ScannerMove.grounded {cfg : PaymentScannerConfig} {db db' : PaymentDb}
    {chain : CanonicalChain} {input : StepInput} {pc pc' : ScannerPc}
    {watched : List CanonicalChain} (h : ScannerMove cfg db chain input pc db' pc')
    (hpc : pc.isWaiting = false → pc.Grounded cfg watched ∧ chain ∈ watched) :
    pc'.Grounded cfg watched := by
  cases h with
  | stop _ => trivial
  | claim _ => trivial
  | candidates tick head _ =>
    exact ⟨fun c hc => hc, fun b hb => absurd hb List.not_mem_nil,
      fun id hid => absurd hid List.not_mem_nil⟩
  | @check tick head cs c rest blocks ids block hblock hhash =>
    obtain ⟨⟨htodo, hblocks, hids⟩, hchain⟩ := hpc rfl
    obtain ⟨hnum, hseen⟩ := canonicalBlock_eq_some hblock
    have hsame : block = c.block := by
      cases block
      cases hc : c.block
      rw [hc] at hnum hhash
      exact congrArg₂ ChainBlockRef.mk hnum hhash
    have hblock' : SeenCanonical watched block := by
      rcases hseen with hmem | hcan
      · exact hblocks block hmem
      · exact ⟨chain, hchain, hcan⟩
    refine ⟨fun c' hc' => htodo c' (List.mem_cons_of_mem c hc'), fun b hb => ?_, fun id hid => ?_⟩
    · rcases List.mem_cons.mp hb with rfl | hb
      · exact hblock'
      · exact hblocks b hb
    · split at hid
      next hdeep =>
        rcases List.mem_append.mp hid with hid | hid
        · exact hids id hid
        · obtain rfl := List.mem_singleton.mp hid
          exact ⟨c, htodo c List.mem_cons_self, rfl, hsame ▸ hblock', hdeep⟩
      · exact hids id hid
  | checked tick head cs blocks ids => exact (hpc rfl).1.2.2
  | confirm tick cs _ hpc' =>
    rcases hpc' with rfl | ⟨result, rfl⟩
    · trivial
    · trivial
  | scan tick pending _ => exact (hpc rfl).2
  | header scan pending pending' headers headers' => exact (hpc rfl).1
  | complete pending _ => exact (hpc rfl).1
  | readHead scan logs => exact (hpc rfl).1
  | matched scan head _ => exact (hpc rfl).1
  | _ => trivial

theorem VerifyMove.grounded {cfg : ManualVerifyConfig} {db db' : PaymentDb}
    {chain : CanonicalChain} {pc pc' : VerifyPc} {watched : List CanonicalChain}
    (h : VerifyMove cfg db chain pc db' pc')
    (hpc : pc.isIdle = false → pc.Grounded cfg watched ∧ chain ∈ watched) :
    pc'.Grounded cfg watched := by
  cases h with
  | readLogs orderId candidate head pending => exact (hpc rfl).2
  | header v pending pending' headers headers' => exact (hpc rfl).1
  | @matched v pending headers logs newId ms hlogs hms =>
    subst hms
    intro m hm
    obtain ⟨log, hlog, c, -, id, rfl, -, -⟩ := mem_matchTransferLogs hm
    have hread := ((attachHeaders_eq_ok hlogs).1 log hlog).1
    exact ⟨⟨v.source, (hpc rfl).1, CanonicalChain.isCanonical_of_mem_getLogs hread⟩,
      hasConfirmations_of_matched⟩
  | check v ms p rest => exact (hpc rfl).1
  | _ => trivial

namespace ScannerState

/-- **Everyone at work is grounded**, and is watching the chain as it is. -/
structure GroundedInv (sys : Deployment) (s : ScannerState) : Prop where
  faithful : ∀ w, (s.pc w).Faithful (sys.scanner w)
  scanner : ∀ w, (s.pc w).isWaiting = false →
    (s.pc w).Grounded (sys.scanner w) (s.watched (.scanner w)) ∧ s.chain ∈ s.watched (.scanner w)
  verifier : ∀ v, (s.verifier v).isIdle = false →
    (s.verifier v).Grounded sys.verify (s.watched (.verifier v))
      ∧ s.chain ∈ s.watched (.verifier v)

variable {sys : Deployment} {s t : ScannerState} {a : ScannerAction}

theorem Initial.groundedInv (h : s.Initial) : s.GroundedInv sys := by
  refine ⟨fun w => ?_, fun w hw => ?_, fun v hv => ?_⟩
  · rw [h.waiting w]
    trivial
  · rw [h.waiting w] at hw
    cases hw
  · rw [h.idle v] at hv
    cases hv

/-- A worker who begins something watches from now on. -/
theorem mem_watchedAfter {who : Worker} {begins : Bool}
    (h : begins = false → s.chain ∈ s.watched who) : s.chain ∈ s.watchedAfter who begins who := by
  unfold watchedAfter
  cases begins with
  | false => exact h rfl
  | true =>
    rw [if_pos rfl, Function.update_self]
    exact List.mem_singleton_self _

theorem watchedAfter_of_ne {who who' : Worker} (hne : who' ≠ who) (begins : Bool) :
    s.watchedAfter who begins who' = s.watched who' := by
  unfold watchedAfter
  cases begins with
  | false => rfl
  | true => rw [if_pos rfl, Function.update_of_ne hne]

/-- A scanner's move keeps everyone grounded. -/
theorem GroundedInv.afterScanner {w : ℕ} {input : StepInput} {db' : PaymentDb} {pc' : ScannerPc}
    (h : s.GroundedInv sys)
    (hmove : ScannerMove (sys.scanner w) s.db s.chain input (s.pc w) db' pc') :
    (s.afterScanner w db' pc').GroundedInv sys := by
  have hwatch : s.chain ∈ s.watchedAfter (.scanner w) (s.pc w).isWaiting (.scanner w) :=
    mem_watchedAfter (fun hw => (h.scanner w hw).2)
  refine ⟨fun w' => ?_, fun w' hw' => ?_, fun v hv => ?_⟩
  · by_cases hw : w' = w
    · subst hw
      rw [afterScanner_pc_self]
      exact hmove.faithful (h.faithful w')
    · rw [afterScanner_pc_of_ne s hw]
      exact h.faithful w'
  · by_cases hw : w' = w
    · subst hw
      rw [afterScanner_pc_self]
      refine ⟨hmove.grounded (fun hnot => ?_), hwatch⟩
      show (s.pc w').Grounded _ (s.watchedAfter _ _ _) ∧ s.chain ∈ s.watchedAfter _ _ _
      rw [hnot]
      exact h.scanner w' hnot
    · rw [afterScanner_pc_of_ne s hw] at hw' ⊢
      show _ ∧ s.chain ∈ s.watchedAfter _ _ _
      rw [show (s.afterScanner w db' pc').watched (.scanner w') = s.watched (.scanner w') from
          watchedAfter_of_ne (fun hc => hw (Worker.scanner.inj hc)) _,
        watchedAfter_of_ne (fun hc => hw (Worker.scanner.inj hc))]
      exact h.scanner w' hw'
  · have hsame : (s.afterScanner w db' pc').watched (.verifier v) = s.watched (.verifier v) :=
      watchedAfter_of_ne (fun hc => by cases hc) _
    rw [hsame]
    exact h.verifier v hv

/-- So does a verification's. -/
theorem GroundedInv.afterVerifier {v : ℕ} {db' : PaymentDb} {pc' : VerifyPc}
    (h : s.GroundedInv sys) (hmove : VerifyMove sys.verify s.db s.chain (s.verifier v) db' pc') :
    (s.afterVerifier v db' pc').GroundedInv sys := by
  have hwatch : s.chain ∈ s.watchedAfter (.verifier v) (s.verifier v).isIdle (.verifier v) :=
    mem_watchedAfter (fun hv => (h.verifier v hv).2)
  refine ⟨h.faithful, fun w hw => ?_, fun v' hv' => ?_⟩
  · have hsame : (s.afterVerifier v db' pc').watched (.scanner w) = s.watched (.scanner w) :=
      watchedAfter_of_ne (fun hc => by cases hc) _
    rw [hsame]
    exact h.scanner w hw
  · by_cases hv : v' = v
    · subst hv
      show (Function.update s.verifier v' pc' v').Grounded _ _ ∧ _
      rw [Function.update_self]
      refine ⟨hmove.grounded (fun hnot => ?_), hwatch⟩
      show (s.verifier v').Grounded _ (s.watchedAfter _ _ _) ∧ s.chain ∈ s.watchedAfter _ _ _
      rw [hnot]
      exact h.verifier v' hnot
    · have hsame : (s.afterVerifier v db' pc').watched (.verifier v') = s.watched (.verifier v') :=
        watchedAfter_of_ne (fun hc => hv (Worker.verifier.inj hc)) _
      have hpc : (s.afterVerifier v db' pc').verifier v' = s.verifier v' := by
        simp [ScannerState.afterVerifier, hv]
      rw [hpc] at hv' ⊢
      rw [hsame]
      exact h.verifier v' hv'

/-- **Every step keeps everyone grounded.** -/
theorem GroundedInv.step (h : s.GroundedInv sys) (hst : step sys s a = some t) :
    t.GroundedInv sys := by
  cases move_of_step hst with
  | @newChain chain hk =>
    exact ⟨h.faithful, fun w hw => ⟨(h.scanner w hw).1.cons chain, List.mem_cons_self⟩,
      fun v hv => ⟨(h.verifier v hv).1.cons chain, List.mem_cons_self⟩⟩
  | scanner hmove => exact h.afterScanner hmove
  | abort w =>
    refine ⟨fun w' => ?_, fun w' hw' => ?_, h.verifier⟩
    · show (Function.update s.pc w _ w').Faithful _
      by_cases hw : w' = w
      · subst hw
        rw [Function.update_self]
        trivial
      · rw [Function.update_of_ne hw]
        exact h.faithful w'
    · by_cases hw : w' = w
      · subst hw
        have hself : (Function.update s.pc w' (.waiting none) w').isWaiting = false := hw'
        rw [Function.update_self] at hself
        cases hself
      · have hpc : Function.update s.pc w (.waiting none) w' = s.pc w' :=
          Function.update_of_ne hw _ s.pc
        have hnot : (Function.update s.pc w (.waiting none) w').isWaiting = false := hw'
        rw [hpc] at hnot
        show (Function.update s.pc w (.waiting none) w').Grounded _ _ ∧ _
        rw [hpc]
        exact h.scanner w' hnot
  | verifier hmove => exact h.afterVerifier hmove
  | abortVerifier v =>
    refine ⟨h.faithful, h.scanner, fun v' hv' => ?_⟩
    by_cases hv : v' = v
    · subst hv
      have hself : (Function.update s.verifier v' .idle v').isIdle = false := hv'
      rw [Function.update_self] at hself
      cases hself
    · have hpc : Function.update s.verifier v .idle v' = s.verifier v' :=
        Function.update_of_ne hv _ s.verifier
      have hnot : (Function.update s.verifier v .idle v').isIdle = false := hv'
      rw [hpc] at hnot
      show (Function.update s.verifier v .idle v').Grounded _ _ ∧ _
      rw [hpc]
      exact h.verifier v' hnot
  | rewindRefused stream epoch n now => exact h
  | rewind hr => exact ⟨h.faithful, h.scanner, h.verifier⟩

/-! ## What a step confirms -/

/-- What a scan commits as confirmed is grounded in what it read. -/
theorem sound_of_commit {w : ℕ} {input : StepInput} {scan : Scan} {head : ChainBlockRef}
    {matched : List MatchedPaymentInput} {records : List PaymentRecord} {db' : PaymentDb}
    (h : s.GroundedInv sys) (hpc : s.pc w = .committing scan head matched)
    (hc : commitScannedBatch s.db input.now (scan.batch (sys.scanner w) matched)
      = .ok (records, db')) {row : PaymentRecord} (hrow : row ∈ db'.payments)
    (hstatus : row.chainStatus = .confirmed) (hnew : row ∉ s.db.payments) :
    SeenCanonical (s.watched (.scanner w)) row.block
      ∧ row.block.hasConfirmations head (sys.scanner w).minConfirmations = true := by
  have hsource := (h.scanner w (by rw [hpc]; rfl)).1
  have hfaithful := h.faithful w
  rw [hpc] at hsource hfaithful
  obtain ⟨c, db₁, -, -, -, -, -, hup, -, rfl⟩ := commitScannedBatch_eq_ok hc
  rcases mem_of_upserts hup hrow with hold | ⟨entry, hentry, hblock, hstat⟩
  · exact absurd hold hnew
  · obtain ⟨m, hm, rfl⟩ := List.mem_map.mp hentry
    obtain ⟨hcan, -, -, hdeep⟩ := mem_matched_of_faithful hfaithful hm
    rw [hblock]
    exact ⟨⟨scan.source, hsource, hcan⟩, hdeep (hstat ▸ hstatus)⟩

/-- What a sweep confirms was checked, if it is still as it was read. -/
theorem sound_of_confirm {w : ℕ} {input : StepInput} {tick : Tick} {head : ChainBlockRef}
    {cs : List PaymentConfirmationCandidate} {ids : List Uuid} {records : List PaymentRecord}
    {db' : PaymentDb} (h : s.GroundedInv sys) (hpc : s.pc w = .confirming tick head cs ids)
    (hstill : StillAsChecked sys s (.scanner w input))
    (hc : confirmObservedPayments s.db input.now ⟨(sys.scanner w).stream, ids, head⟩
      = .ok (records, db')) {row : PaymentRecord} (hrow : row ∈ db'.payments)
    (hnew : row ∉ s.db.payments) :
    SeenCanonical (s.watched (.scanner w)) row.block
      ∧ row.block.hasConfirmations head (sys.scanner w).minConfirmations = true := by
  have hpassed := (h.scanner w (by rw [hpc]; rfl)).1
  rw [hpc] at hpassed
  replace hstill : (s.pc w).StillAsChecked (sys.scanner w).stream s.db.payments := hstill
  rw [hpc] at hstill
  obtain ⟨orderIds, -, -, rfl⟩ := confirmObservedPayments_eq_ok hc
  rcases mem_updateWhere.mp hrow with ⟨old, hold, hsel, rfl⟩ | ⟨hold, -⟩
  · have hid : old.id ∈ ids := by
      simp only [confirmSelects, Bool.and_eq_true, decide_eq_true_eq] at hsel
      exact hsel.1.1
    obtain ⟨c, hcs, hcid, hseen, hdeep⟩ := hpassed old.id hid
    have hblock : c.block = old.block := hstill old hold hsel c hcs hcid
    show SeenCanonical _ old.block ∧ old.block.hasConfirmations _ _ = true
    rw [← hblock]
    exact ⟨hseen, hdeep⟩
  · exact absurd hold hnew

/-- A rewind confirms nothing. -/
theorem not_confirmed_of_reorg {db db' : PaymentDb} {now : Timestamp} {stream : StreamId}
    {epoch lastReorgFrom : ℕ} (hr : handleKvReorgEpoch db now stream epoch lastReorgFrom = .ok db')
    {row : PaymentRecord} (hrow : row ∈ db'.payments) (hstatus : row.chainStatus = .confirmed) :
    row ∈ db.payments := by
  obtain ⟨c, -, ⟨-, rfl⟩ | ⟨-, orderIds, -, -, rfl⟩⟩ := handleKvReorgEpoch_eq_ok hr
  · exact hrow
  · rcases mem_updateWhere.mp hrow with ⟨old, -, -, rfl⟩ | ⟨hold, -⟩
    · cases hstatus
    · exact hold

/-- **Every step confirms on sound grounds**, if the rows a sweep confirms are
still as it read them. -/
theorem GroundedInv.sound (h : s.GroundedInv sys) (hstill : StillAsChecked sys s a) :
    SoundConfirmations sys s a := by
  intro t hst row hrow hstatus hnew
  cases move_of_step hst with
  | newChain _ => exact absurd hrow hnew
  | abort w => exact absurd hrow hnew
  | abortVerifier v => exact absurd hrow hnew
  | rewindRefused stream epoch n now => exact absurd hrow hnew
  | rewind hr => exact absurd (not_confirmed_of_reorg hr hrow hstatus) hnew
  | @verifier v va db' pc' hmove =>
    replace hrow : row ∈ db'.payments := hrow
    have hground := h.verifier v
    generalize hcur : s.verifier v = cur at hmove hground
    cases hmove with
    | @record ver ms now records _ hr =>
      obtain ⟨-, written, db₁, hup, -, rfl⟩ := recordVerifiedPayments_eq_ok hr
      rcases mem_of_upserts hup hrow with hold | ⟨entry, hentry, hblock, hstat⟩
      · exact absurd hold hnew
      · obtain ⟨m, hm, rfl⟩ := List.mem_map.mp hentry
        obtain ⟨hseen, hdeep⟩ := (hground rfl).1 m hm
        refine ⟨⟨.verifier v, ver.head, _⟩, ?_, hblock ▸ hseen, hblock ▸ hdeep (hstat ▸ hstatus)⟩
        show (s.verifier v).operationHead?.map _ = _
        rw [hcur]
        rfl
    | _ => exact absurd hrow hnew
  | @scanner w input db' pc' hmove =>
    replace hrow : row ∈ db'.payments := hrow
    generalize hcur : s.pc w = cur at hmove
    cases hmove with
    | claim hclaim =>
      obtain ⟨hnone, -⟩ | ⟨c, -, -, rfl⟩ := claimScanRange_eq_ok hclaim
      · cases hnone
      · exact absurd hrow hnew
    | confirm tick cs hconf _ =>
      refine ⟨⟨.scanner w, _, _⟩, ?_, sound_of_confirm h hcur hstill hconf hrow hnew⟩
      show (s.pc w).operationHead?.map _ = _
      rw [hcur]
      rfl
    | heal hr => exact absurd (not_confirmed_of_reorg hr hrow hstatus) hnew
    | commit head hcommit =>
      refine ⟨⟨.scanner w, _, _⟩, ?_, sound_of_commit h hcur hcommit hrow hstatus hnew⟩
      show (s.pc w).operationHead?.map _ = _
      rw [hcur]
      rfl
    | _ => exact absurd hrow hnew

/-! ## Every run -/

/-- **Confirmation soundness**: in every run in which each sweep confirms only
rows that are still as it read them, every step confirms on sound grounds. -/
theorem soundConfirmations_of_run {as : List ScannerAction} (hinit : s.Initial)
    (hstill : StepsMeet (ScannerState.step sys) (StillAsChecked sys) s as) :
    StepsMeet (ScannerState.step sys) (SoundConfirmations sys) s as := by
  have hinv : s.GroundedInv sys := hinit.groundedInv
  clear hinit
  induction as generalizing s with
  | nil => trivial
  | cons a as ih =>
    refine ⟨hinv.sound hstill.1, ?_⟩
    have hrest := hstill.2
    cases hst : ScannerState.step sys s a with
    | none => trivial
    | some t =>
      rw [hst] at hrest
      exact ih hrest (hinv.step hst)

namespace SweepRace

open SmallScanner in
/-- The payment is scanned, and a sweep checks it under the next block. -/
def sweptOnce : List ScannerAction :=
  steps 0 10 ++ [.newChain deepChain] ++ steps 0 6

open SmallScanner in
/-- The payment moves to block 2 with a reorganisation, and a manual
verification stores it there, while the sweep has yet to confirm it. -/
def movedMeanwhile : List ScannerAction :=
  sweptOnce ++ [.newChain lateChain, .verifier 0 (.start 0xd1 none)]
    ++ List.replicate 6 (.verifier 0 (.proceed (input 2)))

/-- The sweep confirms what it has checked. -/
def sweepConfirms : ScannerAction := .scanner 0 (SmallScanner.input 1)

end SweepRace

/-- A sweep that is left alone confirms the payment on sound grounds. -/
theorem soundConfirmations_of_sweep :
    (runSteps (ScannerState.step SmallScanner.sys) (SmallScanner.initial SmallScanner.paidChain)
        (SweepRace.sweptOnce ++ [SweepRace.sweepConfirms])).map
          (fun u => u.db.payments.map PaymentRecord.chainStatus) = some [.confirmed]
      ∧ StepsMeet (ScannerState.step SmallScanner.sys) (SoundConfirmations SmallScanner.sys)
        (SmallScanner.initial SmallScanner.paidChain)
        (SweepRace.sweptOnce ++ [SweepRace.sweepConfirms]) :=
  ⟨by decide, soundConfirmations_of_run (SmallScanner.initial_initial _) (by decide)⟩

/-- **A row is confirmed in a block nobody checked**: the sweep checked it in
block 1, and confirms it in block 2, under a single confirmation. -/
theorem soundConfirmations_fails :
    ¬ ∀ (sys : Deployment) (s : ScannerState) (as : List ScannerAction), s.Initial →
      StepsMeet (ScannerState.step sys) (SoundConfirmations sys) s as := by
  intro hall
  have hmeet := hall SmallScanner.sys _ (SweepRace.movedMeanwhile ++ [SweepRace.sweepConfirms])
    (SmallScanner.initial_initial SmallScanner.paidChain)
  have hbad : ((runSteps (ScannerState.step SmallScanner.sys)
      (SmallScanner.initial SmallScanner.paidChain) SweepRace.movedMeanwhile).bind (fun u =>
        (ScannerState.step SmallScanner.sys u SweepRace.sweepConfirms).bind (fun t =>
          t.db.payments.find? (fun row => decide (row.chainStatus = .confirmed)
            && decide (row ∉ u.db.payments)
            && (operation? SmallScanner.sys u SweepRace.sweepConfirms).all (fun op =>
              !row.block.hasConfirmations op.head op.minConfirmations))))).isSome = true := by
    decide
  obtain ⟨row, hrow⟩ := Option.isSome_iff_exists.mp hbad
  obtain ⟨u, hu, hrow⟩ := Option.bind_eq_some_iff.mp hrow
  obtain ⟨t, ht, hrow⟩ := Option.bind_eq_some_iff.mp hrow
  have hcond := List.find?_some hrow
  simp only [Bool.and_eq_true, decide_eq_true_eq] at hcond
  obtain ⟨⟨hconf, hnew⟩, hshallow⟩ := hcond
  obtain ⟨op, hop, -, hdeep⟩ := (stepsMeet_of_append hmeet hu).1 t ht row
    (List.mem_of_find?_eq_some hrow) hconf hnew
  rw [hop, Option.all_some, hdeep] at hshallow
  cases hshallow

end ScannerState
