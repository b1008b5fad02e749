import Pay3.TerminalCollections

/-!
# The finality gate of the receipt check

A collection should become `confirmed` or `failed` only on a receipt whose
block is canonical and deep enough. The path of a successful receipt asks the
node for the head and for the canonical block of that number before it
confirms, in two calls between which the chain can go back; the path of a
reverted receipt asks nothing and fails the collection at once.

Every finalisation is on record with the block of its receipt and the chains
that were canonical at some moment of the check, so the property is one about
states: the record of every finalisation holds its grounds, and every terminal
collection and every settled transaction has such a record.
-/

/-- **The grounds for finalising** on a receipt in block `b`: one of the chains
`watched` has `b` in it, under a head that gives `b` its confirmations. -/
def Grounds (watched : List CanonicalChain) (b : ChainBlockRef) (required : ℕ) : Prop :=
  ∃ chain ∈ watched, chain.IsCanonical b ∧ b.hasConfirmations chain.latestHead required = true

/-- Grounds stay good when more chains are watched. -/
theorem Grounds.mono {watched watched' : List CanonicalChain} {b : ChainBlockRef} {required : ℕ}
    (h : Grounds watched b required) (hsub : watched ⊆ watched') :
    Grounds watched' b required := by
  obtain ⟨chain, hc, hgrounds⟩ := h
  exact ⟨chain, hsub hc, hgrounds⟩

/-- What a worker has established about the receipt it holds. That the block was deep
enough under an earlier head is not enough. -/
def CollectorPc.Grounded (watched : List CanonicalChain) (required : ℕ) : CollectorPc → Prop
  | .confirmable _ _ b => Grounds watched b required
  | .reverted _ _ b => Grounds watched b required
  | _ => True

/-- It stays established when more chains are watched. -/
theorem CollectorPc.Grounded.mono {watched watched' : List CanonicalChain} {required : ℕ}
    {pc : CollectorPc} (h : pc.Grounded watched required) (hsub : watched ⊆ watched') :
    pc.Grounded watched' required := by
  cases pc with
  | confirmable c tx b => exact Grounds.mono h hsub
  | reverted c tx b => exact Grounds.mono h hsub
  | _ => trivial

namespace CollectorState

variable {cfg : CollectorConfig} {s : CollectorState} {w : ℕ} {pc : CollectorPc}
  {a : WorkerAction} {r : WorkerResult}

/-- **The finality gate.** -/
structure FinalityGate (s : CollectorState) : Prop where
  grounds : ∀ f ∈ s.history.finalised, Grounds f.watched f.block f.minConfirmations
  outbounds : ∀ o ∈ s.db.outboundTransactions, o.status.isSettled = true →
    ∃ f ∈ s.history.finalised, f.txId = o.id
  collections : ∀ c ∈ s.db.collections, c.status.isTerminal = true →
    ∃ f ∈ s.history.finalised, c.outboundTxId = some f.txId

/-- A check reads a reverted receipt whose block is not canonical at that
moment, or does not have its confirmations yet. -/
def revertsEarly (cfg : ℕ → CollectorConfig) (s : CollectorState) : CollectorAction → Bool
  | .worker w (.readReceipt (some receipt)) =>
    match s.pc w with
    | .checking _ tx => decide (receipt.txHash = tx.txHash) && decide (receipt.status = .reverted)
        && !(decide (s.chain.IsCanonical receipt.block)
          && receipt.block.hasConfirmations s.chain.latestHead (cfg w).minConfirmations)
    | _ => false
  | _ => false

/-- A check reads the block of its receipt as the canonical one, but the head has
gone back since it was read: under the head of this moment the block does not have
its confirmations. -/
def losesDepth (cfg : ℕ → CollectorConfig) (s : CollectorState) : CollectorAction → Bool
  | .worker w .readBlock =>
    match s.pc w with
    | .deepEnough _ _ b => decide (s.chain.IsCanonical b)
        && !b.hasConfirmations s.chain.latestHead (cfg w).minConfirmations
    | _ => false
  | _ => false

/-! ## What a worker establishes -/

theorem proceed_pc {ε β : Type} {x : Except ε β} {next : β → CollectorPc}
    (h : s.proceed x next = some r) : r.pc = .idle ∨ ∃ b, r.pc = next b :=
  after_proceed (Q := fun r => r.pc = .idle ∨ ∃ b, r.pc = next b) h (Or.inl rfl)
    (fun b _ => Or.inr ⟨b, rfl⟩)

theorem commit_pc {ε β : Type} {x : Except ε (CollectorDb × β)} {record : β → CollectorHistory}
    {next : β → CollectorPc} (h : s.commit x record next = some r) :
    r.pc = .idle ∨ ∃ b, r.pc = next b :=
  after_commit (Q := fun r => r.pc = .idle ∨ ∃ b, r.pc = next b) h (Or.inl rfl)
    (fun _ b _ => Or.inr ⟨b, rfl⟩)

/-- A step to a program counter that establishes nothing. -/
theorem grounded_of_pc {watched : List CanonicalChain} {required : ℕ} {β : Type}
    {next : β → CollectorPc} (h : r.pc = .idle ∨ ∃ b, r.pc = next b)
    (hnext : ∀ b, (next b).Grounded watched required) : r.pc.Grounded watched required := by
  rcases h with h | ⟨b, h⟩
  · rw [h]
    trivial
  · rw [h]
    exact hnext b

/-- **A worker that reaches the point of finalising has its grounds**, as long
as the reverted receipts it reads come with theirs and the block of a successful one
is still deep enough when it is read. -/
theorem grounded_workerStep (h : workerStep cfg s w pc a = some r)
    {L : List CanonicalChain} (hchain : pc.claimed? ≠ none → s.chain ∈ L)
    (hpc : pc.Grounded L cfg.minConfirmations)
    (hearly : ∀ c tx receipt, pc = .checking c tx → a = .readReceipt (some receipt) →
      receipt.txHash = tx.txHash → receipt.status = .reverted →
        Grounds [s.chain] receipt.block cfg.minConfirmations)
    (hdepth : ∀ c tx b, pc = .deepEnough c tx b → a = .readBlock → s.chain.IsCanonical b →
      b.hasConfirmations s.chain.latestHead cfg.minConfirmations = true) :
    r.pc.Grounded L cfg.minConfirmations := by
  unfold workerStep at h
  split at h
  case h_1 => exact grounded_of_pc (commit_pc h) (fun b => by cases b <;> trivial)
  case h_2 => exact grounded_of_pc (commit_pc h) (fun b => by cases b <;> trivial)
  case h_3 => exact grounded_of_pc (commit_pc h) (fun b => by cases b <;> trivial)
  case h_4 c tx answer =>
    rw [← Option.some.inj h]
    by_cases hans : answer = tx.txHash
    · rw [if_pos hans]; trivial
    · rw [if_neg hans]; trivial
  case h_5 => exact grounded_of_pc (commit_pc h) (fun _ => trivial)
  case h_6 c tx answer =>
    rw [← Option.some.inj h]
    cases answer with
    | none =>
      show (if outboundReplacementDue cfg s.now tx then CollectorPc.receiptMissing c tx
        else .idle).Grounded _ _
      split <;> trivial
    | some receipt =>
      by_cases hhash : receipt.txHash = tx.txHash
      · cases hst : receipt.status with
        | success => simp [afterReceipt, hhash, hst, CollectorPc.Grounded]
        | reverted =>
          have hg := hearly c tx receipt rfl rfl hhash hst
          have hsub : [s.chain] ⊆ L := by
            simpa using hchain (by simp [CollectorPc.claimed?])
          simpa [afterReceipt, hhash, hst, CollectorPc.Grounded] using hg.mono hsub
      · simp [afterReceipt, hhash, CollectorPc.Grounded]
  case h_7 c tx block =>
    rw [← Option.some.inj h]
    by_cases hdeep : block.hasConfirmations s.chain.latestHead cfg.minConfirmations = true
    · rw [if_pos hdeep]
      trivial
    · rw [if_neg hdeep]
      trivial
  case h_8 c tx block =>
    rw [← Option.some.inj h]
    cases hb : s.chain.blockByNumber block.number with
    | none => trivial
    | some canonical =>
      by_cases hhash : canonical.hash = block.hash
      · have hcan : s.chain.IsCanonical block := by
          unfold CanonicalChain.IsCanonical CanonicalChain.hashAt
          rw [hb, Option.map_some, hhash]
        have hgrounds : Grounds L block cfg.minConfirmations :=
          ⟨s.chain, hchain (by simp [CollectorPc.claimed?]), hcan, hdepth c tx block rfl rfl hcan⟩
        simpa [afterBlock, hhash, CollectorPc.Grounded] using hgrounds
      · simp [afterBlock, hhash, CollectorPc.Grounded]
  case h_9 => exact grounded_of_pc (commit_pc h) (fun _ => trivial)
  case h_10 => exact grounded_of_pc (commit_pc h) (fun _ => trivial)
  case h_11 => exact grounded_of_pc (proceed_pc h) (fun _ => trivial)
  case h_12 => exact grounded_of_pc (proceed_pc h) (fun _ => trivial)
  case h_13 => exact grounded_of_pc (proceed_pc h) (fun _ => trivial)
  case h_14 => exact grounded_of_pc (commit_pc h) (fun _ => trivial)
  case h_15 => exact grounded_of_pc (proceed_pc h) (fun _ => trivial)
  case h_16 => exact grounded_of_pc (commit_pc h) (fun b => by cases b <;> trivial)
  case h_17 => exact grounded_of_pc (proceed_pc h) (fun _ => trivial)
  case h_18 => exact grounded_of_pc (commit_pc h) (fun _ => trivial)
  case h_19 =>
    rw [← Option.some.inj h]
    trivial
  case h_20 => cases h

/-- A claim on a transaction is taken by the receipt claim, or was there. -/
theorem claimed_of_move (hm : WorkerMove cfg s w pc a r) (h : r.pc.claimed? ≠ none) :
    a = .claimForReceipt ∨ pc.claimed? ≠ none := by
  cases hm with
  | quiet hc hh hidle hb =>
    rcases hc with hc | hc
    · exact absurd hc h
    · exact Or.inr (hc ▸ h)
  | sent hpc hpc' =>
    rcases hpc' with rfl | rfl
    · exact absurd rfl h
    · exact absurd rfl h
  | leased hmem hf hc hb hpc hh =>
    obtain ⟨p, hp⟩ := Option.ne_none_iff_exists'.mp h
    exact Or.inl (hc p hp).1
  | reserved ha hpc hpc' =>
    rcases hpc' with ⟨n, rfl, -⟩ | ⟨rfl, -⟩
    · exact absurd rfl h
    · exact absurd rfl h
  | stored ha hpc hx => exact absurd rfl h
  | replaced ha hpc hx => exact absurd rfl h
  | markedBroadcast hpc hx => exact absurd rfl h
  | confirmed hpc hx => exact absurd rfl h
  | failed hpc hx => exact absurd rfl h

/-! ## The record of finalisations -/

/-- Every settled transaction is on record. -/
def Recorded (db : CollectorDb) (finalised : List Finalisation) : Prop :=
  ∀ o ∈ db.outboundTransactions, o.status.isSettled = true → ∃ f ∈ finalised, f.txId = o.id

/-- A mark that settles its transaction and is put on record, or settles
nothing. -/
theorem recorded_mark {db db' : CollectorDb} {txId : Uuid} {able : String}
    {setOutbound : OutboundTxRecord → OutboundTxRecord} {starts : CollectionRecordStatus → Bool}
    {setCollection : CollectionRecord → CollectionRecord} {row : OutboundTxRecord}
    {finalised finalised' : List Finalisation} (h : Recorded db finalised)
    (hx : db.markOutbound txId able setOutbound starts setCollection = .ok (db', row))
    (hsub : finalised ⊆ finalised') (hid : ∀ o, (setOutbound o).id = o.id)
    (hset : (∀ o, (setOutbound o).status.isSettled = false) ∨ ∃ f ∈ finalised', f.txId = txId) :
    Recorded db' finalised' := by
  obtain ⟨-, -, rfl⟩ := CollectorDb.markOutbound_eq_ok hx
  intro o ho hs
  rcases mem_updateWhere.mp ho with ⟨q, hq, hp, rfl⟩ | ⟨ho, -⟩
  · rcases hset with hset | ⟨f, hf, hft⟩
    · rw [hset q] at hs
      cases hs
    · simp only [Bool.and_eq_true, decide_eq_true_eq] at hp
      exact ⟨f, hf, by rw [hft, hid, hp.1]⟩
  · obtain ⟨f, hf, hfo⟩ := h o ho hs
    exact ⟨f, hsub hf, hfo⟩

/-- A worker's move keeps the record complete. -/
theorem recorded_move (h : Recorded s.db s.history.finalised) (hm : WorkerMove cfg s w pc a r) :
    Recorded r.db r.history.finalised := by
  cases hm with
  | quiet hc hh hidle hb => exact h
  | sent hpc hpc' => exact h
  | leased hmem hf hc hb hpc hh => exact h
  | reserved ha hpc hpc' => exact h
  | stored ha hpc hx =>
    obtain ⟨-, rfl, -, rfl⟩ := CollectorDb.insertSignedCollectTx_eq_ok hx
    intro o ho hs
    rcases List.mem_append.mp ho with ho | ho
    · exact h o ho hs
    · rw [List.mem_singleton.mp ho] at hs
      cases hs
  | replaced ha hpc hx =>
    obtain ⟨-, -, rfl, rfl⟩ := CollectorDb.replaceSignedTx_eq_ok hx
    intro o ho hs
    rcases List.mem_append.mp ho with ho | ho
    · rcases mem_updateWhere.mp ho with ⟨q, -, -, rfl⟩ | ⟨ho, -⟩
      · cases hs
      · exact h o ho hs
    · rw [List.mem_singleton.mp ho] at hs
      cases hs
  | markedBroadcast hpc hx =>
    exact recorded_mark h hx (List.Subset.refl _) (fun _ => rfl) (Or.inl fun _ => rfl)
  | confirmed hpc hx =>
    exact recorded_mark h (CollectorDb.markConfirmed_eq_ok.mp hx).2 (List.subset_append_left _ _)
      (fun _ => rfl) (Or.inr ⟨_, List.mem_append_right _ List.mem_cons_self, rfl⟩)
  | failed hpc hx =>
    exact recorded_mark h hx (List.subset_append_left _ _) (fun _ => rfl)
      (Or.inr ⟨_, List.mem_append_right _ List.mem_cons_self, rfl⟩)

/-! ## Runs -/

/-- **The invariant behind the gate.** -/
structure GateInv (cfg : ℕ → CollectorConfig) (s : CollectorState) : Prop where
  settled : s.db.Settled
  /-- A check watches the chain it is made against. -/
  watching : ∀ w, (s.pc w).claimed? ≠ none → s.chain ∈ s.watched w
  grounded : ∀ w, (s.pc w).Grounded (s.watched w) (cfg w).minConfirmations
  grounds : ∀ f ∈ s.history.finalised, Grounds f.watched f.block f.minConfirmations
  recorded : Recorded s.db s.history.finalised

/-- The invariant gives the gate. -/
theorem GateInv.finalityGate {cfg : ℕ → CollectorConfig} (h : GateInv cfg s) : FinalityGate s where
  grounds := h.grounds
  outbounds := h.recorded
  collections := by
    intro c hc ht
    obtain ⟨o, ho, hoc, hos⟩ := h.settled c hc ht
    obtain ⟨f, hf, hfo⟩ := h.recorded o ho hos
    exact ⟨f, hf, by rw [hoc, hfo]⟩

/-- A finalisation is put on record with the grounds of the worker. -/
theorem grounds_move {cfg : ℕ → CollectorConfig} (h : GateInv cfg s)
    (hm : WorkerMove (cfg w) s w (s.pc w) a r) :
    ∀ f ∈ r.history.finalised, Grounds f.watched f.block f.minConfirmations := by
  have happend : ∀ {txId b}, Grounds (s.watched w) b (cfg w).minConfirmations →
      ∀ f ∈ (s.recordFinalised (cfg w) w txId b).finalised,
        Grounds f.watched f.block f.minConfirmations := by
    intro txId b hg f hf
    rcases List.mem_append.mp hf with hf | hf
    · exact h.grounds f hf
    · rw [List.mem_singleton.mp hf]
      exact hg
  cases hm with
  | quiet hc hh hidle hb => exact h.grounds
  | sent hpc hpc' => exact h.grounds
  | leased hmem hf hc hb hpc hh => exact h.grounds
  | reserved ha hpc hpc' => exact h.grounds
  | stored ha hpc hx => exact h.grounds
  | replaced ha hpc hx => exact h.grounds
  | markedBroadcast hpc hx => exact h.grounds
  | confirmed hpc hx =>
    have hg := h.grounded w
    rw [hpc] at hg
    exact happend hg
  | failed hpc hx =>
    have hg := h.grounded w
    rw [hpc] at hg
    exact happend hg

/-- The condition of the run, as the worker's step uses it. -/
theorem grounds_of_not_early {cfg : ℕ → CollectorConfig}
    (hearly : revertsEarly cfg s (.worker w a) = false) {c : Uuid} {tx : OutboundTxRecord}
    {receipt : TxReceipt} (hpc : s.pc w = .checking c tx) (ha : a = .readReceipt (some receipt))
    (hhash : receipt.txHash = tx.txHash) (hst : receipt.status = .reverted) :
    Grounds [s.chain] receipt.block (cfg w).minConfirmations := by
  subst ha
  simp only [revertsEarly, hpc, hhash, hst, decide_true, Bool.true_and, Bool.not_eq_false',
    Bool.and_eq_true, decide_eq_true_eq] at hearly
  exact ⟨s.chain, List.mem_singleton_self _, hearly⟩

/-- The other half of the condition. -/
theorem depth_of_not_lost {cfg : ℕ → CollectorConfig}
    (hdepth : losesDepth cfg s (.worker w a) = false) {c : Uuid} {tx : OutboundTxRecord}
    {b : ChainBlockRef} (hpc : s.pc w = .deepEnough c tx b) (ha : a = .readBlock)
    (hcan : s.chain.IsCanonical b) :
    b.hasConfirmations s.chain.latestHead (cfg w).minConfirmations = true := by
  subst ha
  simpa only [losesDepth, hpc, hcan, decide_true, Bool.true_and, Bool.not_eq_false'] using hdepth

/-- **One step keeps the invariant**, unless it reads a reverted receipt too
early, or the block of a successful one after the head went back. -/
theorem gateInv_step {cfg : ℕ → CollectorConfig} {t : CollectorState} {b : CollectorAction}
    (h : GateInv cfg s) (hearly : revertsEarly cfg s b = false)
    (hdepth : losesDepth cfg s b = false) (hstep : step cfg s b = some t) : GateInv cfg t := by
  have hsettled := settled_step h.settled hstep
  obtain ⟨command, -, -, rfl⟩ | hsur | ⟨w, a, r, rfl, hr, hm, rfl⟩ := step_cases hstep
  · exact ⟨hsettled, h.watching, h.grounded, h.grounds, h.recorded⟩
  · obtain ⟨orders, hdb⟩ := hsur.db
    refine ⟨hsettled, fun w hw => ?_, fun w => ?_, ?_, ?_⟩
    · rw [hsur.pc] at hw
      rcases hsur.watched with ⟨hc, hwat⟩ | hwat
      · rw [hc, hwat]
        exact h.watching w hw
      · rw [hwat]
        exact List.mem_cons_self
    · rw [hsur.pc]
      refine (h.grounded w).mono ?_
      rcases hsur.watched with ⟨-, hwat⟩ | hwat
      · rw [hwat]
        exact List.Subset.refl _
      · rw [hwat]
        exact List.subset_cons_self _ _
    · rw [hsur.history]
      exact h.grounds
    · rw [hsur.history, hdb]
      exact h.recorded
  · refine ⟨hsettled, fun v hv => ?_, fun v => ?_, grounds_move h hm, recorded_move h.recorded hm⟩
    · by_cases hvw : v = w
      · subst hvw
        by_cases ha : a = .claimForReceipt
        · simp [moved, ha]
        · have hclaimed : (s.pc v).claimed? ≠ none := by
            rcases claimed_of_move hm (by simpa [moved] using hv) with h | h
            · exact absurd h ha
            · exact h
          simpa [moved, ha] using h.watching v hclaimed
      · have hv' : (s.pc v).claimed? ≠ none := by simpa [moved, hvw] using hv
        by_cases ha : a = .claimForReceipt
        · simpa [moved, ha, hvw] using h.watching v hv'
        · simpa [moved, ha] using h.watching v hv'
    · by_cases hvw : v = w
      · subst hvw
        have hground := grounded_workerStep hr (L := (s.moved v a r).watched v)
        have hpc : (s.moved v a r).pc v = r.pc := by simp [moved]
        rw [hpc]
        by_cases ha : a = .claimForReceipt
        · refine hground (fun _ => by simp [moved, ha]) ?_
            (fun c tx receipt _ ha' => by rw [ha] at ha'; cases ha')
            (fun c tx b _ ha' => by rw [ha] at ha'; cases ha')
          -- the receipt claim starts from a program counter that holds no receipt
          have hpc₀ : s.pc v = .noSigned := by
            subst ha
            unfold workerStep at hr
            split at hr <;> first | assumption | contradiction
          rw [hpc₀]
          trivial
        · have hwat : (s.moved v a r).watched v = s.watched v := by simp [moved, ha]
          rw [hwat] at hground ⊢
          exact hground (h.watching v) (h.grounded v)
            (fun c tx receipt hpc ha' hhash hst => grounds_of_not_early hearly hpc ha' hhash hst)
            (fun c tx b hpc ha' hcan => depth_of_not_lost hdepth hpc ha' hcan)
      · have hpc : (s.moved w a r).pc v = s.pc v := by simp [moved, hvw]
        have hwat : (s.moved w a r).watched v = s.watched v := by
          by_cases ha : a = .claimForReceipt
          · simp [moved, ha, hvw]
          · simp [moved, ha]
        rw [hpc, hwat]
        exact h.grounded v

/-- **The finality gate.** In every run of the collector, under every evolution
of the chain, in which each reverted receipt that a check reads stands in a
block that is canonical and deep enough at that moment, and in which the block of a
successful one is still deep enough when it is read, a collection and its
transaction become terminal only on a receipt whose block was canonical and
had its confirmations at one moment of the check. -/
theorem finalityGate_of_run {cfg : ℕ → CollectorConfig} {s t : CollectorState}
    {as : List CollectorAction} (hinit : Initial s)
    (hgood : StepsMeet (step cfg)
      (fun s a => revertsEarly cfg s a = false ∧ losesDepth cfg s a = false) s as)
    (hr : runSteps (step cfg) s as = some t) : FinalityGate t := by
  refine (inv_of_run (I := GateInv cfg)
    (fun _ _ _ h ha hstep => gateInv_step h ha.1 ha.2 hstep)
    ⟨?_, fun w hw => ?_, fun w => ?_, ?_, ?_⟩ hgood hr).finalityGate
  · intro c hc
    rw [hinit.collections] at hc
    exact absurd hc List.not_mem_nil
  · rw [hinit.idle w] at hw
    exact absurd rfl hw
  · rw [hinit.idle w]
    trivial
  · rw [hinit.history]
    exact fun f hf => absurd hf List.not_mem_nil
  · intro o ho
    rw [hinit.outbounds] at ho
    exact absurd ho List.not_mem_nil

open SmallDeployment in
/-- A reverted receipt in a block with two confirmations fails the collection,
and the gate holds. -/
theorem finalityGate_of_deep_revert :
    ∃ t, runSteps (step config) initial (sentRun ++ .newChain (mined .reverted) :: failBy 1)
        = some t
      ∧ (t.db.collection? 0xd1).map CollectionRecord.status = some .failed
      ∧ FinalityGate t := by
  have hrun : (runSteps (step config) initial
      (sentRun ++ .newChain (mined .reverted) :: failBy 1)).map
        (fun t => (t.db.collection? 0xd1).map CollectionRecord.status)
      = some (some .failed) := by decide
  obtain ⟨t, ht, hfailed⟩ := Option.map_eq_some_iff.mp hrun
  exact ⟨t, ht, hfailed, finalityGate_of_run initial_initial (by decide) ht⟩

open SmallDeployment in
/-- **The property fails in general.** Two confirmations are required; the
transaction is mined, reverted, in the block at the head; worker 1 reads the
receipt and fails the collection on one confirmation. The block is then
reorganised away, and the collection stays failed. -/
theorem finalityGate_fails :
    ¬ ∀ (cfg : ℕ → CollectorConfig) (s t : CollectorState) (as : List CollectorAction),
      Initial s → runSteps (step cfg) s as = some t → FinalityGate t := by
  intro hall
  have hrun : (runSteps (step config) initial
      (sentRun ++ .newChain minedAtHead :: failBy 1 ++ [.newChain genesis])).map
        (fun t => t.history.finalised.map (fun f => f.watched.any
          (fun chain => f.block.hasConfirmations chain.latestHead f.minConfirmations)))
      = some [false] := by decide
  obtain ⟨t, ht, hshallow⟩ := Option.map_eq_some_iff.mp hrun
  have hgate := hall config initial t _ initial_initial ht
  have hall' : ∀ x ∈ t.history.finalised.map (fun f => f.watched.any
      (fun chain => f.block.hasConfirmations chain.latestHead f.minConfirmations)), x = true := by
    intro x hx
    obtain ⟨f, hf, rfl⟩ := List.mem_map.mp hx
    obtain ⟨chain, hchain, -, hdeep⟩ := hgate.grounds f hf
    exact List.any_eq_true.mpr ⟨chain, hchain, hdeep⟩
  rw [hshallow] at hall'
  exact absurd (hall' false List.mem_cons_self) (by decide)

end CollectorState
