import Pay3.StoredFirst

/-!
# The fees of replacements

A node takes a transaction in place of another with the same nonce only if both of
its fees are at least ten per cent higher. `replace_collection_job` adds a tenth to
each of the two fees, and at least one, and takes the larger of the result and the
current estimate.

The two fees are raised one by one, and a table constraint keeps the priority fee
below the other. Adding a tenth is monotone, rounded or not, and so the order of the
fees is kept through a chain of replacements of any length.
-/

/-! ## A tenth more -/

/-- A tenth more, and at least one. -/
def tenthMore (n : ℕ) : ℕ := n + max (n / 10) 1

theorem lt_tenthMore (n : ℕ) : n < tenthMore n := by
  unfold tenthMore
  omega

theorem le_tenthMore_of_tenth (n : ℕ) : 110 * n / 100 ≤ tenthMore n := by
  unfold tenthMore
  omega

theorem tenthMore_mono {m n : ℕ} (h : m ≤ n) : tenthMore m ≤ tenthMore n := by
  unfold tenthMore
  omega

theorem RawAmount.toNat_max (a b : RawAmount) : (RawAmount.max a b).toNat = Max.max a.toNat b.toNat := by
  unfold RawAmount.max
  split_ifs with h
  · exact (max_eq_right (BitVec.le_def.mp h)).symm
  · exact (max_eq_left (le_of_not_ge (fun hle => h (BitVec.le_def.mpr hle)))).symm

/-- **`bump_raw_amount`** adds a tenth, if the sum is an amount. -/
theorem bumpRawAmount_eq_ok {amount bumped : RawAmount} :
    bumpRawAmount amount = .ok bumped
      ↔ tenthMore amount.toNat < 2 ^ 256 ∧ bumped.toNat = tenthMore amount.toNat := by
  have hbump : amount.toNat + (if amount.toNat / 10 = 0 then 1 else amount.toNat / 10)
      = tenthMore amount.toNat := by
    unfold tenthMore
    split_ifs <;> omega
  unfold bumpRawAmount
  dsimp only
  rw [hbump]
  split_ifs with hlt
  · have hnat : (BitVec.ofNat 256 (tenthMore amount.toNat)).toNat = tenthMore amount.toNat := by
      rw [BitVec.toNat_ofNat, Nat.mod_eq_of_lt hlt]
    constructor
    · intro h
      rw [← Except.ok.inj h]
      exact ⟨hlt, hnat⟩
    · rintro ⟨-, h⟩
      exact congrArg Except.ok (BitVec.eq_of_toNat_eq (hnat.trans h.symm))
  · constructor
    · intro h
      cases h
    · rintro ⟨h, -⟩
      exact absurd h hlt

/-! ## Fees -/

/-- The fees a transaction was stored with. -/
def OutboundTxRecord.fees (tx : OutboundTxRecord) : CollectionFees :=
  ⟨tx.gasLimit, tx.maxFeePerGas, tx.maxPriorityFeePerGas⟩

/-- The fees a transaction is stored with. -/
def NewSignedOutboundTx.fees (tx : NewSignedOutboundTx) : CollectionFees :=
  ⟨tx.gasLimit, tx.maxFeePerGas, tx.maxPriorityFeePerGas⟩

/-- The priority fee is at most the fee, as `outbound_priority_fee_le_max_fee` asks. -/
def CollectionFees.Ordered (fees : CollectionFees) : Prop :=
  fees.maxPriorityFeePerGas.toNat ≤ fees.maxFeePerGas.toNat

/-- **Fees a node takes in place of others**: both are higher, by a tenth. -/
structure CollectionFees.Outbids (fees previous : CollectionFees) : Prop where
  maxFee : previous.maxFeePerGas.toNat < fees.maxFeePerGas.toNat
  maxFee_tenth : 110 * previous.maxFeePerGas.toNat / 100 ≤ fees.maxFeePerGas.toNat
  priorityFee : previous.maxPriorityFeePerGas.toNat < fees.maxPriorityFeePerGas.toNat
  priorityFee_tenth :
    110 * previous.maxPriorityFeePerGas.toNat / 100 ≤ fees.maxPriorityFeePerGas.toNat

theorem ordered_collectionFeesFromEstimate (configured : CollectionFees)
    (estimate : Eip1559FeeEstimate) : (collectionFeesFromEstimate configured estimate).Ordered := by
  unfold CollectionFees.Ordered collectionFeesFromEstimate
  dsimp only
  rw [RawAmount.toNat_max (RawAmount.max _ _)]
  exact le_max_right _ _

/-- The fees of a replacement: the estimate or a tenth more, whichever is higher. -/
structure CollectionFees.RaisedFrom (fees previous current : CollectionFees) : Prop where
  maxFee : fees.maxFeePerGas.toNat
    = max current.maxFeePerGas.toNat (tenthMore previous.maxFeePerGas.toNat)
  priorityFee : fees.maxPriorityFeePerGas.toNat
    = max current.maxPriorityFeePerGas.toNat (tenthMore previous.maxPriorityFeePerGas.toNat)

namespace CollectionFees.RaisedFrom

variable {fees previous current : CollectionFees}

theorem outbids (h : fees.RaisedFrom previous current) : fees.Outbids previous where
  maxFee := h.maxFee ▸ (lt_tenthMore _).trans_le (le_max_right _ _)
  maxFee_tenth := h.maxFee ▸ (le_tenthMore_of_tenth _).trans (le_max_right _ _)
  priorityFee := h.priorityFee ▸ (lt_tenthMore _).trans_le (le_max_right _ _)
  priorityFee_tenth := h.priorityFee ▸ (le_tenthMore_of_tenth _).trans (le_max_right _ _)

theorem ordered (h : fees.RaisedFrom previous current) (hprevious : previous.Ordered)
    (hcurrent : current.Ordered) : fees.Ordered := by
  unfold CollectionFees.Ordered at *
  rw [h.maxFee, h.priorityFee]
  have htenth := tenthMore_mono hprevious
  omega

end CollectionFees.RaisedFrom

theorem bumpCollectionFees_eq_ok {fees bumped : CollectionFees} :
    bumpCollectionFees fees = .ok bumped
      ↔ bumpRawAmount fees.maxFeePerGas = .ok bumped.maxFeePerGas
        ∧ bumpRawAmount fees.maxPriorityFeePerGas = .ok bumped.maxPriorityFeePerGas
        ∧ bumped.gasLimit = fees.gasLimit := by
  unfold bumpCollectionFees
  constructor
  · intro h
    obtain ⟨maxFee, hmax, h⟩ := Except.bind_eq_ok.mp h
    obtain ⟨priority, hpriority, h⟩ := Except.bind_eq_ok.mp h
    rw [← Except.pure_eq_ok.mp h]
    exact ⟨hmax, hpriority, rfl⟩
  · rintro ⟨hmax, hpriority, hgas⟩
    refine Except.bind_eq_ok.mpr ⟨_, hmax, Except.bind_eq_ok.mpr ⟨_, hpriority, ?_⟩⟩
    rw [← hgas]
    rfl

/-- **`assert_replacement_allowed`** accepts whatever outbids and changes nothing else. -/
theorem assertReplacementAllowed_of_outbids {plan : CollectionTxPlan} {previous : CollectionFees}
    (h : plan.fees.Outbids previous) :
    CollectionTxPlan.assertReplacementAllowed { plan with fees := previous } plan = .ok () := by
  have hmax : previous.maxFeePerGas < plan.fees.maxFeePerGas := BitVec.lt_def.mpr h.maxFee
  have hpriority : previous.maxPriorityFeePerGas < plan.fees.maxPriorityFeePerGas :=
    BitVec.lt_def.mpr h.priorityFee
  unfold CollectionTxPlan.assertReplacementAllowed
  refine ensure_bind_eq_ok.mpr ⟨decide_eq_true rfl, ?_⟩
  refine ensure_bind_eq_ok.mpr ⟨decide_eq_true rfl, ?_⟩
  refine ensure_bind_eq_ok.mpr ⟨decide_eq_true rfl, ?_⟩
  refine ensure_bind_eq_ok.mpr ⟨decide_eq_true rfl, ?_⟩
  refine ensure_bind_eq_ok.mpr ⟨decide_eq_true rfl, ?_⟩
  refine ensure_bind_eq_ok.mpr ⟨decide_eq_true hmax, ?_⟩
  exact ensure_eq_ok.mpr (decide_eq_true hpriority)

/-! ## Plans -/

section Plan

variable {strategy : CollectionStrategyConfig} {configured : CollectionFees}
  {c : CollectionRecord} {claimed : OutboundTxRecord} {estimate : Eip1559FeeEstimate}
  {plan : CollectionTxPlan}

/-- What keeps a transaction from being replaced: no amount is settled on, the nonce is none
that can be signed, a tenth more is no amount, or another account paid for it. -/
def CannotReplace (strategy : CollectionStrategyConfig) (c : CollectionRecord)
    (claimed : OutboundTxRecord) : Prop :=
  c.amountRaw = none ∨ u64Max < claimed.nonce.toNat
    ∨ 2 ^ 256 ≤ tenthMore claimed.maxFeePerGas.toNat
    ∨ 2 ^ 256 ≤ tenthMore claimed.maxPriorityFeePerGas.toNat
    ∨ claimed.fromAddress ≠ payerAddress strategy c

/-- The fees of a plan are raised from those of the transaction. -/
theorem raisedFrom_of_replacementPlan
    (h : replacementPlan strategy configured c claimed estimate = .ok plan) :
    plan.fees.RaisedFrom claimed.fees (collectionFeesFromEstimate configured estimate)
      ∧ ¬ CannotReplace strategy c claimed := by
  unfold replacementPlan at h
  obtain ⟨amount, hamount, h⟩ := Except.bind_eq_ok.mp h
  obtain ⟨nonce, hnonce, h⟩ := Except.bind_eq_ok.mp h
  obtain ⟨bumped, hbumped, h⟩ := Except.bind_eq_ok.mp h
  obtain ⟨hfrom, h⟩ := ensure_bind_eq_ok.mp h
  obtain ⟨_, -, h⟩ := Except.bind_eq_ok.mp h
  obtain rfl := Except.pure_eq_ok.mp h
  obtain ⟨hmax, hpriority, -⟩ := bumpCollectionFees_eq_ok.mp hbumped
  obtain ⟨hmaxlt, hmax⟩ := bumpRawAmount_eq_ok.mp hmax
  obtain ⟨hprioritylt, hpriority⟩ := bumpRawAmount_eq_ok.mp hpriority
  refine ⟨⟨?_, ?_⟩, ?_⟩
  · rw [RawAmount.toNat_max, hmax]
    rfl
  · rw [RawAmount.toNat_max, hpriority]
    rfl
  · have hu64 : claimed.nonce.toNat ≤ u64Max := by
      unfold rawAmountToU64 at hnonce
      split_ifs at hnonce with hle
      exact hle
    rintro (hnone | hnonce' | hmax' | hpriority' | hfrom')
    · rw [orError_eq_ok, hnone] at hamount
      cases hamount
    · exact absurd hu64 (not_le.mpr hnonce')
    · exact absurd hmaxlt (not_lt.mpr hmax')
    · exact absurd hprioritylt (not_lt.mpr hpriority')
    · exact hfrom' (of_decide_eq_true hfrom)

/-- **What can be replaced gets a plan**: the fees never stand in the way. -/
theorem exists_replacementPlan (configured : CollectionFees) (estimate : Eip1559FeeEstimate)
    (h : ¬ CannotReplace strategy c claimed) :
    ∃ plan, replacementPlan strategy configured c claimed estimate = .ok plan := by
  simp only [CannotReplace, not_or, not_lt, not_le, ne_eq, not_not] at h
  obtain ⟨hamount, hnonce, hmax, hpriority, hfrom⟩ := h
  obtain ⟨amount, hamount⟩ := Option.ne_none_iff_exists'.mp hamount
  obtain ⟨bumpedMax, hbumpedMax⟩ : ∃ b, bumpRawAmount claimed.maxFeePerGas = .ok b :=
    ⟨BitVec.ofNat 256 (tenthMore claimed.maxFeePerGas.toNat), bumpRawAmount_eq_ok.mpr
      ⟨hmax, by rw [BitVec.toNat_ofNat, Nat.mod_eq_of_lt hmax]⟩⟩
  obtain ⟨bumpedPriority, hbumpedPriority⟩ :
      ∃ b, bumpRawAmount claimed.maxPriorityFeePerGas = .ok b :=
    ⟨BitVec.ofNat 256 (tenthMore claimed.maxPriorityFeePerGas.toNat), bumpRawAmount_eq_ok.mpr
      ⟨hpriority, by rw [BitVec.toNat_ofNat, Nat.mod_eq_of_lt hpriority]⟩⟩
  have hbumped : bumpCollectionFees claimed.fees
      = .ok ⟨claimed.gasLimit, bumpedMax, bumpedPriority⟩ :=
    bumpCollectionFees_eq_ok.mpr ⟨hbumpedMax, hbumpedPriority, rfl⟩
  have hu64 : rawAmountToU64 claimed.nonce = .ok claimed.nonce.toNat := if_pos hnonce
  unfold replacementPlan
  refine Except.exists_bind_eq_ok.mpr ⟨amount, orError_eq_ok.mpr hamount, ?_⟩
  refine Except.exists_bind_eq_ok.mpr ⟨_, hu64, Except.exists_bind_eq_ok.mpr ⟨_, hbumped, ?_⟩⟩
  refine exists_ensure_bind_eq_ok.mpr ⟨decide_eq_true hfrom, ?_⟩
  refine Except.exists_bind_eq_ok.mpr ⟨(), ?_, _, rfl⟩
  let plan : CollectionTxPlan := ⟨c.chainId, claimed.nonce.toNat, payerAddress strategy c,
    c.toAddress, amount,
    ⟨max (collectionFeesFromEstimate configured estimate).gasLimit claimed.gasLimit,
      RawAmount.max (collectionFeesFromEstimate configured estimate).maxFeePerGas bumpedMax,
      RawAmount.max (collectionFeesFromEstimate configured estimate).maxPriorityFeePerGas
        bumpedPriority⟩⟩
  have hraised : plan.fees.RaisedFrom claimed.fees
      (collectionFeesFromEstimate configured estimate) := by
    refine ⟨?_, ?_⟩
    · show (RawAmount.max _ _).toNat = _
      rw [RawAmount.toNat_max, (bumpRawAmount_eq_ok.mp hbumpedMax).2]
      rfl
    · show (RawAmount.max _ _).toNat = _
      rw [RawAmount.toNat_max, (bumpRawAmount_eq_ok.mp hbumpedPriority).2]
      rfl
  exact assertReplacementAllowed_of_outbids hraised.outbids

/-- **One replacement**: it fails for a reason that is not the fees it would have, or has fees
that are exactly a tenth more or those of the estimate, outbid the old ones, keep their order
and are allowed. -/
theorem replacementPlan_cases (strategy : CollectionStrategyConfig) (configured : CollectionFees)
    (c : CollectionRecord) (claimed : OutboundTxRecord) (estimate : Eip1559FeeEstimate)
    (hclaimed : claimed.fees.Ordered) :
    (CannotReplace strategy c claimed
        ∧ ∃ e, replacementPlan strategy configured c claimed estimate = .error e)
      ∨ ∃ plan, replacementPlan strategy configured c claimed estimate = .ok plan
        ∧ plan.fees.RaisedFrom claimed.fees (collectionFeesFromEstimate configured estimate)
        ∧ plan.fees.Outbids claimed.fees ∧ plan.fees.Ordered
        ∧ CollectionTxPlan.assertReplacementAllowed { plan with fees := claimed.fees } plan
          = .ok () := by
  cases hplan : replacementPlan strategy configured c claimed estimate with
  | error e =>
    refine Or.inl ⟨by_contra (fun hcan => ?_), e, rfl⟩
    obtain ⟨plan, hplan'⟩ := exists_replacementPlan configured estimate hcan
    rw [hplan] at hplan'
    cases hplan'
  | ok plan =>
    obtain ⟨hraised, -⟩ := raisedFrom_of_replacementPlan hplan
    exact Or.inr ⟨plan, rfl, hraised, hraised.outbids,
      hraised.ordered hclaimed (ordered_collectionFeesFromEstimate configured estimate),
      assertReplacementAllowed_of_outbids hraised.outbids⟩

end Plan

/-! ## Chains -/

/-- What one replacement of a chain is made with. -/
structure ReplacementInput where
  strategy : CollectionStrategyConfig
  configured : CollectionFees
  collection : CollectionRecord
  /-- The claimed transaction, but for its fees. -/
  claimed : OutboundTxRecord
  estimate : Eip1559FeeEstimate

/-- The transaction with the fees of the last replacement. -/
def ReplacementInput.claimedWith (input : ReplacementInput) (fees : CollectionFees) :
    OutboundTxRecord :=
  { input.claimed with
    gasLimit := fees.gasLimit
    maxFeePerGas := fees.maxFeePerGas
    maxPriorityFeePerGas := fees.maxPriorityFeePerGas }

/-- The plan of the next replacement of a chain. -/
def ReplacementInput.plan (input : ReplacementInput) (fees : CollectionFees) :
    Except CollectionServiceError CollectionTxPlan :=
  replacementPlan input.strategy input.configured input.collection (input.claimedWith fees)
    input.estimate

/-- The fees after the next replacement, if there is one. -/
def replaceFees (fees : CollectionFees) (input : ReplacementInput) : Option CollectionFees :=
  (input.plan fees).toOption.map CollectionTxPlan.fees

/-- **The fees stay in order** through a chain of replacements. -/
theorem ordered_of_chain (configured : CollectionFees) (estimate : Eip1559FeeEstimate)
    {inputs : List ReplacementInput} {fees : CollectionFees}
    (hrun : runSteps replaceFees (collectionFeesFromEstimate configured estimate) inputs
      = some fees) : fees.Ordered := by
  refine inv_of_run (I := CollectionFees.Ordered) (P := fun _ _ => True)
    (fun before input after h _ hstep => ?_) (ordered_collectionFeesFromEstimate configured estimate)
    (stepsMeet_of_forall (fun _ _ => trivial) _ _) hrun
  obtain ⟨plan, hplan, rfl⟩ := Option.map_eq_some_iff.mp hstep
  obtain ⟨hraised, -⟩ := raisedFrom_of_replacementPlan (Except.toOption_eq_some.mp hplan)
  exact hraised.ordered h (ordered_collectionFeesFromEstimate _ _)

/-! ## The collector -/

/-- **What a worker's local variables say of fees.** -/
def CollectorPc.FeesOf : CollectorPc → Prop
  | .quoted _ _ _ fees | .reserved _ _ _ fees _ => fees.Ordered
  | .signed _ _ tx => tx.fees.Ordered ∧ tx.replacementOf = none
  | .planned _ tx _ plan => plan.fees.Outbids tx.fees ∧ plan.fees.Ordered
  | .replacementSigned _ tx replacement =>
    replacement.fees.Outbids tx.fees ∧ replacement.fees.Ordered
  | _ => True

namespace CollectorState

/-- **The fees in the database and in the hands of the workers**: each transaction has its fees
in order and outbids the one it replaces, and a worker has claimed what is stored. -/
structure FeesInv (s : CollectorState) : Prop where
  ordered : ∀ tx ∈ s.db.written, tx.fees.Ordered
  outbids : ∀ tx ∈ s.db.written, ∀ id, tx.replacementOf = some id →
    ∃ old ∈ s.db.written, old.id = id ∧ tx.fees.Outbids old.fees
  claims : ∀ w p, (s.pc w).claimed? = some p → p.2.written ∈ s.db.written
  workers : ∀ w, (s.pc w).FeesOf

section Move

variable {cfg : CollectorConfig} {s : CollectorState} {w : ℕ} {pc : CollectorPc}
  {a : WorkerAction} {r : WorkerResult}

/-- What a worker knows of fees after a step. -/
theorem feesOf_of_workerStep (hpc : pc.FeesOf)
    (hclaim : ∀ p, pc.claimed? = some p → p.2.fees.Ordered)
    (h : workerStep cfg s w pc a = some r) : r.pc.FeesOf := by
  unfold workerStep at h
  split at h
  case h_1 | h_2 | h_3 =>
    refine after_commit (Q := fun r => r.pc.FeesOf) h trivial (fun db x _ => ?_)
    cases x <;> trivial
  case h_4 c tx answer =>
    obtain rfl := Option.some.inj h
    dsimp only
    split <;> trivial
  case h_6 =>
    obtain rfl := Option.some.inj h
    dsimp only
    unfold afterReceipt
    repeat' split
    all_goals trivial
  case h_7 =>
    obtain rfl := Option.some.inj h
    dsimp only
    split <;> trivial
  case h_8 =>
    obtain rfl := Option.some.inj h
    dsimp only
    unfold afterBlock
    repeat' split
    all_goals trivial
  case h_11 => exact after_proceed (Q := fun r => r.pc.FeesOf) h trivial (fun _ _ => trivial)
  case h_12 c tx job estimate =>
    refine after_proceed (Q := fun r => r.pc.FeesOf) h trivial (fun plan hplan => ?_)
    obtain ⟨hraised, -⟩ := raisedFrom_of_replacementPlan hplan
    exact ⟨hraised.outbids, hraised.ordered (hclaim (c, tx) rfl)
      (ordered_collectionFeesFromEstimate _ _)⟩
  case h_13 c tx job plan signed id =>
    refine after_proceed (Q := fun r => r.pc.FeesOf) h trivial (fun replacement hchecked => ?_)
    obtain ⟨-, -, hchecked⟩ := Except.bind_eq_ok.mp hchecked
    rw [← Except.pure_eq_ok.mp hchecked]
    exact hpc
  case h_15 job balance estimate =>
    exact after_proceed (Q := fun r => r.pc.FeesOf) h trivial
      (fun _ _ => ordered_collectionFeesFromEstimate _ _)
  case h_16 job payer amount fees pendingNonce =>
    refine after_commit (Q := fun r => r.pc.FeesOf) h trivial (fun db x _ => ?_)
    cases x with
    | error e => trivial
    | ok n => exact hpc
  case h_17 job payer amount fees nonce signed id =>
    refine after_proceed (Q := fun r => r.pc.FeesOf) h trivial (fun tx hchecked => ?_)
    obtain ⟨_, -, hchecked⟩ := Except.bind_eq_ok.mp hchecked
    obtain ⟨_, -, hchecked⟩ := Except.bind_eq_ok.mp hchecked
    rw [← Except.pure_eq_ok.mp hchecked]
    exact ⟨hpc, rfl⟩
  case h_5 | h_9 | h_10 | h_14 | h_18 =>
    exact after_commit (Q := fun r => r.pc.FeesOf) h trivial (fun _ _ _ => trivial)
  case h_19 =>
    obtain rfl := Option.some.inj h
    trivial
  case h_20 => cases h

/-- What a worker has claimed after a step, it had, or has just read from the table. -/
theorem claim_of_move (h : WorkerMove cfg s w pc a r) {p : Uuid × OutboundTxRecord}
    (hp : r.pc.claimed? = some p) :
    pc.claimed? = some p ∨ p.2.written ∈ r.db.written := by
  cases h with
  | quiet hc _ _ _ =>
    rcases hc with hnone | hsame
    · rw [hp] at hnone
      cases hnone
    · exact Or.inl (hsame.symm.trans hp)
  | sent _ hpc' =>
    rcases hpc' with rfl | rfl <;> cases hp
  | leased _ _ hc _ _ _ =>
    obtain ⟨-, -, hrow⟩ := hc p hp
    obtain ⟨i, -, hi⟩ := Option.bind_eq_some_iff.mp hrow
    exact Or.inr (List.mem_map_of_mem (mem_of_find?_key hi).1)
  | reserved _ _ hpc' =>
    rcases hpc' with ⟨n, rfl, -⟩ | ⟨rfl, -⟩ <;> cases hp
  | stored _ _ _ => cases hp
  | replaced _ _ _ => cases hp
  | markedBroadcast _ _ => cases hp
  | confirmed _ _ => cases hp
  | failed _ _ => cases hp

/-- A mark writes nothing. -/
theorem mem_written_of_mark {db db' : CollectorDb} {txId : Uuid} {able : String}
    {setOutbound : OutboundTxRecord → OutboundTxRecord} {starts : CollectionRecordStatus → Bool}
    {setCollection : CollectionRecord → CollectionRecord} {row : OutboundTxRecord}
    (h : db.markOutbound txId able setOutbound starts setCollection = .ok (db', row))
    (hset : ∀ o, (setOutbound o).written = o.written) : db'.written = db.written := by
  obtain ⟨-, -, rfl⟩ := CollectorDb.markOutbound_eq_ok h
  exact map_updateWhere hset db.outboundTransactions

/-- **What a move writes** is the transaction the worker has signed, or its replacement. -/
theorem mem_written_of_move (h : WorkerMove cfg s w pc a r) {tx : NewSignedOutboundTx}
    (htx : tx ∈ r.db.written) :
    tx ∈ s.db.written
      ∨ (∃ job amount signed, pc = .signed job amount signed ∧ tx.fees = signed.fees
        ∧ tx.replacementOf = signed.replacementOf)
      ∨ ∃ c old replacement, pc = .replacementSigned c old replacement
        ∧ tx.fees = replacement.fees ∧ tx.replacementOf = some old.id := by
  cases h with
  | quiet _ _ _ _ => exact Or.inl htx
  | sent _ _ => exact Or.inl htx
  | leased _ _ _ _ _ _ => exact Or.inl htx
  | reserved _ _ _ => exact Or.inl htx
  | @stored job amount signed db row _ hpc hx =>
    obtain ⟨-, rfl, -, rfl⟩ := CollectorDb.insertSignedCollectTx_eq_ok hx
    unfold CollectorDb.written at htx
    dsimp only at htx
    rw [List.map_append] at htx
    rcases List.mem_append.mp htx with hold | hnew
    · exact Or.inl hold
    · obtain rfl := List.mem_singleton.mp hnew
      exact Or.inr (Or.inl ⟨job, amount, signed, hpc, rfl, rfl⟩)
  | @replaced c old replacement db row _ hpc hx =>
    obtain ⟨-, -, rfl, rfl⟩ := CollectorDb.replaceSignedTx_eq_ok hx
    unfold CollectorDb.written at htx
    dsimp only at htx
    rw [List.map_append, map_updateWhere (fun o => by rfl)] at htx
    rcases List.mem_append.mp htx with hold | hnew
    · exact Or.inl hold
    · obtain rfl := List.mem_singleton.mp hnew
      exact Or.inr (Or.inr ⟨c, old, replacement, hpc, rfl, rfl⟩)
  | markedBroadcast _ hx => exact Or.inl (mem_written_of_mark hx (fun _ => rfl) ▸ htx)
  | confirmed _ hx =>
    exact Or.inl (mem_written_of_mark (CollectorDb.markConfirmed_eq_ok.mp hx).2 (fun _ => rfl)
      ▸ htx)
  | failed _ hx => exact Or.inl (mem_written_of_mark hx (fun _ => rfl) ▸ htx)

end Move

variable {cfg : ℕ → CollectorConfig} {s t : CollectorState} {a : CollectorAction}

theorem Initial.feesInv (h : s.Initial) : s.FeesInv := by
  have hnone : s.db.written = [] := by
    unfold CollectorDb.written
    rw [h.outbounds]
    rfl
  refine ⟨fun tx htx => ?_, fun tx htx => ?_, fun w p hp => ?_, fun w => ?_⟩
  · rw [hnone] at htx
    cases htx
  · rw [hnone] at htx
    cases htx
  · rw [h.idle w] at hp
    cases hp
  · rw [h.idle w]
    trivial

/-- **Every step keeps it.** -/
theorem FeesInv.step (hs : s.FeesInv) (h : step cfg s a = some t) : t.FeesInv := by
  obtain ⟨command, -, -, rfl⟩ | hsur | ⟨w, b, r, -, hr, hm, rfl⟩ := step_cases h
  · exact ⟨hs.ordered, hs.outbids, hs.claims, hs.workers⟩
  · obtain ⟨orders, hdb⟩ := hsur.db
    have hwritten : t.db.written = s.db.written := by
      rw [hdb]
      rfl
    exact ⟨hwritten ▸ hs.ordered, hwritten ▸ hs.outbids, hwritten ▸ hsur.pc ▸ hs.claims,
      hsur.pc ▸ hs.workers⟩
  · have hgrow : ∀ tx ∈ s.db.written, tx ∈ r.db.written :=
      fun tx htx => (written_of_move hm).subset htx
    have hworker := hs.workers w
    refine ⟨fun tx htx => ?_, fun tx htx id hid => ?_, fun v p hp => ?_, fun v => ?_⟩
    · obtain hold | ⟨job, amount, signed, hpc, hfees, -⟩ | ⟨c, old, replacement, hpc, hfees, -⟩ :=
        mem_written_of_move hm htx
      · exact hs.ordered tx hold
      · rw [hpc] at hworker
        exact hfees ▸ hworker.1
      · rw [hpc] at hworker
        exact hfees ▸ hworker.2
    · obtain hold | ⟨job, amount, signed, hpc, -, hnone⟩ | ⟨c, old, replacement, hpc, hfees, hof⟩ :=
        mem_written_of_move hm htx
      · obtain ⟨old, hin, hold⟩ := hs.outbids tx hold id hid
        exact ⟨old, hgrow old hin, hold⟩
      · rw [hpc] at hworker
        rw [hnone, hworker.2] at hid
        cases hid
      · -- the old transaction is the one the worker has claimed
        rw [hpc] at hworker
        have hclaim := hs.claims w (c, old) (by rw [hpc]; rfl)
        refine ⟨old.written, hgrow _ hclaim, Option.some.inj (hof.symm.trans hid), ?_⟩
        rw [hfees]
        exact hworker.1
    · change (Function.update s.pc w r.pc v).claimed? = some p at hp
      by_cases hv : v = w
      · rw [hv, Function.update_self] at hp
        rcases claim_of_move hm hp with hold | hread
        · exact hgrow _ (hs.claims w p hold)
        · exact hread
      · rw [Function.update_of_ne hv] at hp
        exact hgrow _ (hs.claims v p hp)
    · change (Function.update s.pc w r.pc v).FeesOf
      by_cases hv : v = w
      · rw [hv, Function.update_self]
        exact feesOf_of_workerStep hworker (fun p hp => hs.ordered _ (hs.claims w p hp)) hr
      · rw [Function.update_of_ne hv]
        exact hs.workers v

theorem feesInv_of_run {as : List CollectorAction} (hs : s.Initial)
    (hrun : runSteps (CollectorState.step cfg) s as = some t) : t.FeesInv :=
  inv_of_run (P := fun _ _ => True) (fun _ _ _ hs _ h => hs.step h) hs.feesInv
    (stepsMeet_of_forall (fun _ _ => trivial) s as) hrun

end CollectorState

/-! ## The constraint -/

/-- `outbound_priority_fee_le_max_fee` is violated. -/
def feeCheckViolation : RepositoryError :=
  .database (.checkViolation "outbound_priority_fee_le_max_fee")

namespace CollectorDb

variable {db : CollectorDb} {now : Timestamp} {tx : NewSignedOutboundTx}

theorem checkOutboundRow_failsOnly {row : OutboundTxRecord} (h : row.fees.Ordered) :
    (db.checkOutboundRow row).FailsOnly (fun e => e ≠ feeCheckViolation) := by
  have hordered : row.maxPriorityFeePerGas ≤ row.maxFeePerGas := BitVec.le_def.mpr h
  unfold checkOutboundRow
  refine .bind (failsOnly_ensure (by decide)) (fun _ _ => ?_)
  refine .bind (failsOnly_ensure (by decide)) (fun _ _ => ?_)
  rw [decide_eq_true hordered]
  refine .bind (Except.failsOnly_ok ()) (fun _ _ => ?_)
  refine .bind (failsOnly_ensure (by decide)) (fun _ _ => ?_)
  refine .bind (failsOnly_ensure (by decide)) (fun _ _ => ?_)
  refine .bind (failsOnly_ensure (by decide)) (fun _ _ => ?_)
  exact failsOnly_ensure (by decide)

theorem insertSignedTxRow_failsOnly {replacementOf : Option Uuid} (h : tx.fees.Ordered) :
    (db.insertSignedTxRow now tx replacementOf).FailsOnly (fun e => e ≠ feeCheckViolation) := by
  unfold insertSignedTxRow
  refine .bind (toI64_failsOnly (by decide)) (fun _ _ => ?_)
  refine .bind (toI64_failsOnly (by decide)) (fun _ _ => ?_)
  exact .bind (checkOutboundRow_failsOnly h) (fun _ _ => Except.failsOnly_ok _)

theorem fireOutboundTrigger_failsOnly (attaches : Bool) (p : CollectionRecord → Bool)
    (f : CollectionRecord → CollectionRecord) :
    (db.fireOutboundTrigger attaches p f).FailsOnly (fun e => e ≠ feeCheckViolation) := by
  have htrigger : ∀ c, (db.enforceCollectionOutboundTx c).FailsOnly
      (fun e => e ≠ feeCheckViolation) := by
    intro c
    unfold enforceCollectionOutboundTx
    split
    · exact Except.failsOnly_ok ()
    · split
      · exact Except.failsOnly_error (fun h => by cases h)
      · exact failsOnly_ensure (fun h => by cases h)
  unfold fireOutboundTrigger
  split_ifs
  · induction db.collections.filter p with
    | nil => exact Except.failsOnly_ok ()
    | cons c rest ih => exact .bind (htrigger (f c)) (fun _ _ => ih)
  · exact Except.failsOnly_ok ()

theorem updateCollections_failsOnly (attaches : Bool) (p : CollectionRecord → Bool)
    (f : CollectionRecord → CollectionRecord) :
    (db.updateCollections attaches p f).FailsOnly (fun e => e ≠ feeCheckViolation) := by
  unfold updateCollections
  refine .bind (fireOutboundTrigger_failsOnly _ _ _) (fun _ _ => ?_)
  exact .bind (failsOnly_ensure (by decide)) (fun _ _ => Except.failsOnly_ok _)

/-- A transaction with its fees in order is not refused for them. -/
theorem insertSignedCollectTx_failsOnly {collectionId : Uuid} {amount : RawAmount}
    (h : tx.fees.Ordered) :
    (db.insertSignedCollectTx now collectionId tx amount).FailsOnly
      (fun e => e ≠ feeCheckViolation) := by
  unfold insertSignedCollectTx
  refine .bind (insertSignedTxRow_failsOnly h) (fun _ _ => ?_)
  refine .bind (updateCollections_failsOnly _ _ _) (fun _ _ => ?_)
  exact .bind (failsOnly_ensure (fun h => by cases h)) (fun _ _ => Except.failsOnly_ok _)

theorem replaceSignedTx_failsOnly {oldTxId : Uuid} (h : tx.fees.Ordered) :
    (db.replaceSignedTx now oldTxId tx).FailsOnly (fun e => e ≠ feeCheckViolation) := by
  unfold replaceSignedTx
  refine .bind ?_ (fun old _ => ?_)
  · unfold orError
    split
    · exact Except.failsOnly_ok _
    · exact Except.failsOnly_error (fun h => by cases h)
  refine .bind ?_ (fun _ _ => ?_)
  · unfold ensureReplaceable
    split
    all_goals first
      | exact Except.failsOnly_ok _
      | exact Except.failsOnly_error (fun h => by cases h)
  refine .bind ?_ (fun _ _ => ?_)
  · unfold ensureReplacementInvariants
    exact .bind (failsOnly_ensure (fun h => by cases h))
      (fun _ _ => failsOnly_ensure (fun h => by cases h))
  refine .bind (toI64_failsOnly (by decide)) (fun _ _ => ?_)
  refine .bind (insertSignedTxRow_failsOnly h) (fun _ _ => ?_)
  exact .bind (updateCollections_failsOnly _ _ _) (fun _ _ => Except.failsOnly_ok _)

end CollectorDb

/-- **Replacements outbid.** Through a chain of any length, from the fees of any estimate and
with any later ones, each replacement fails for a reason that is not its fees or raises both of
them by a tenth, without a wrap, and is allowed; and in every state of the collector the stored
transactions are such chains, and no transaction is refused for its fees. -/
theorem replacements_outbid :
    (∀ (configured : CollectionFees) (estimate : Eip1559FeeEstimate)
      (inputs : List ReplacementInput) (fees : CollectionFees),
      runSteps replaceFees (collectionFeesFromEstimate configured estimate) inputs = some fees →
        fees.Ordered ∧ ∀ input : ReplacementInput,
          (CannotReplace input.strategy input.collection (input.claimedWith fees)
              ∧ ∃ e, input.plan fees = .error e)
            ∨ ∃ plan, input.plan fees = .ok plan
              ∧ plan.fees.RaisedFrom fees
                (collectionFeesFromEstimate input.configured input.estimate)
              ∧ plan.fees.Outbids fees ∧ plan.fees.Ordered
              ∧ CollectionTxPlan.assertReplacementAllowed { plan with fees := fees } plan = .ok ())
      ∧ ∀ (cfg : ℕ → CollectorConfig) (s t : CollectorState) (as : List CollectorAction),
        s.Initial → runSteps (CollectorState.step cfg) s as = some t →
          (∀ row ∈ t.db.outboundTransactions, row.fees.Ordered
              ∧ ∀ id, row.replacementOf = some id →
                ∃ old ∈ t.db.outboundTransactions, old.id = id ∧ row.fees.Outbids old.fees)
            ∧ (∀ w job amount tx, t.pc w = .signed job amount tx →
              t.db.insertSignedCollectTx t.now job.collection.id tx amount
                ≠ .error feeCheckViolation)
            ∧ ∀ w c tx replacement, t.pc w = .replacementSigned c tx replacement →
              t.db.replaceSignedTx t.now tx.id replacement ≠ .error feeCheckViolation := by
  refine ⟨fun configured estimate inputs fees hrun => ?_, fun cfg s t as hs hrun => ?_⟩
  · have hordered := ordered_of_chain configured estimate hrun
    exact ⟨hordered, fun input => replacementPlan_cases input.strategy input.configured
      input.collection (input.claimedWith fees) input.estimate hordered⟩
  · have ht := CollectorState.feesInv_of_run hs hrun
    refine ⟨fun row hrow => ⟨?_, fun id hid => ?_⟩, fun w job amount tx hpc herror => ?_,
      fun w c tx replacement hpc herror => ?_⟩
    · exact ht.ordered row.written (List.mem_map_of_mem hrow)
    · obtain ⟨old, hold, hoid, houtbids⟩ := ht.outbids row.written (List.mem_map_of_mem hrow) id hid
      obtain ⟨old, hin, rfl⟩ := List.mem_map.mp hold
      exact ⟨old, hin, hoid, houtbids⟩
    · have hworker := ht.workers w
      rw [hpc] at hworker
      exact CollectorDb.insertSignedCollectTx_failsOnly hworker.1 _ herror rfl
    · have hworker := ht.workers w
      rw [hpc] at hworker
      exact CollectorDb.replaceSignedTx_failsOnly hworker.2 _ herror rfl

open SmallDeployment in
/-- A transaction that was replaced, with fees of 30 and 2, by one with 33 and 3. -/
theorem replacements_outbid_in_run :
    ∃ t, runSteps (CollectorState.step config) initial
        (sentRun ++ .advanceClock 400000000 :: signReplacementBy 1 0 0xf1 0xe1
          ++ [.worker 1 .storeReplacement]) = some t
      ∧ t.db.outboundTransactions.map OutboundTxRecord.fees = [⟨65000, 30, 2⟩, ⟨65000, 33, 3⟩]
      ∧ ∀ row ∈ t.db.outboundTransactions, ∀ id, row.replacementOf = some id →
        ∃ old ∈ t.db.outboundTransactions, old.id = id ∧ row.fees.Outbids old.fees := by
  have hok : (runSteps (CollectorState.step config) initial
      (sentRun ++ .advanceClock 400000000 :: signReplacementBy 1 0 0xf1 0xe1
        ++ [.worker 1 .storeReplacement])).map
      (fun t => t.db.outboundTransactions.map OutboundTxRecord.fees)
        = some [⟨65000, 30, 2⟩, ⟨65000, 33, 3⟩] := by decide +kernel
  obtain ⟨t, hrun, hfees⟩ := Option.map_eq_some_iff.mp hok
  refine ⟨t, hrun, hfees, fun row hrow => ?_⟩
  exact ((replacements_outbid.2 config initial t _ initial_initial hrun).1 row hrow).2
