import Pay3.CollectorSystem

/-!
# What a step of the collector can do

`WorkerMove` lists what one step of a worker can do to the database and the
history, with the program counter it starts from; `workerStep_move` says that
the list is complete. The invariants of the collector are proved from it, and
none of them unfolds `workerStep` again.

Most steps are quiet: they change nothing but the worker's own program
counter. What such a step may do to the claim and to the nonce a worker holds
is to keep them or to let go of them.
-/

/-- **An update that writes a lease and nothing else.** -/
structure LeaseOnly (f : CollectionRecord → CollectionRecord) : Prop where
  id : ∀ c, (f c).id = c.id
  status : ∀ c, (f c).status = c.status
  outboundTxId : ∀ c, (f c).outboundTxId = c.outboundTxId
  childAccountId : ∀ c, (f c).childAccountId = c.childAccountId
  fromAddress : ∀ c, (f c).fromAddress = c.fromAddress
  amountRaw : ∀ c, (f c).amountRaw = c.amountRaw

namespace CollectorState

/-- **What a step of worker `w` can do** from the program counter `pc`. -/
inductive WorkerMove (cfg : CollectorConfig) (s : CollectorState) (w : ℕ) (pc : CollectorPc)
    (a : WorkerAction) : WorkerResult → Prop
  /-- Nothing but the program counter changes. -/
  | quiet {pc' : CollectorPc} (hc : pc'.claimed? = none ∨ pc'.claimed? = pc.claimed?)
      (hh : pc'.holding? = none ∨ pc'.holding? = pc.holding?)
      (hidle : pc'.holding? = none → pc.holding? ≠ none → pc' = .idle)
      (hb : ∀ i tx, pc' ≠ .broadcasting i tx) :
      WorkerMove cfg s w pc a ⟨s.db, s.history, pc'⟩
  /-- A transaction is handed to the node. -/
  | sent {pc' : CollectorPc} {c : Uuid} {tx : OutboundTxRecord} (hpc : pc = .broadcasting c tx)
      (hpc' : pc' = .broadcasted c tx ∨ pc' = .idle) :
      WorkerMove cfg s w pc a
        ⟨s.db, { s.history with sent := s.history.sent ++ [tx] }, pc'⟩
  /-- A lease is written on a collection that is not terminal. -/
  | leased {pc' : CollectorPc} {c : CollectionRecord} {f : CollectionRecord → CollectionRecord}
      (hmem : c ∈ s.db.collections) (hf : LeaseOnly f)
      (hc : ∀ p, pc'.claimed? = some p →
        a = .claimForReceipt ∧ p.1 = c.id ∧ c.outboundTxId.bind s.db.outbound? = some p.2)
      (hb : ∀ i tx, pc' = .broadcasting i tx → c.outboundTxId.bind s.db.outbound? = some tx)
      (hpc : pc.holding? = none) (hh : pc'.holding? = none) :
      WorkerMove cfg s w pc a ⟨{ s.db with
        collections := updateWhere (fun d => decide (d.id = c.id)) f s.db.collections },
        s.history, pc'⟩
  /-- A nonce is reserved. -/
  | reserved {pc' : CollectorPc} {job : CollectionJob} {payer : EvmAddress} {amount : RawAmount}
      {fees : CollectionFees} {pendingNonce : RawAmount}
      (ha : a = .reserve pendingNonce) (hpc : pc = .quoted job payer amount fees)
      (hpc' : (∃ n : RawAmount, pc' = .reserved job payer amount fees n ∧ n.toNat
          = s.db.reservableNonce job.collection.chainId payer pendingNonce)
        ∨ (pc' = .idle
          ∧ 2 ^ 256 ≤ s.db.reservableNonce job.collection.chainId payer pendingNonce)) :
      WorkerMove cfg s w pc a
        ⟨s.db.setNonce job.collection.chainId payer
            (s.db.reservableNonce job.collection.chainId payer pendingNonce + 1),
          s.recordReservation job.collection.chainId payer pendingNonce, pc'⟩
  /-- A transaction is stored and attached. -/
  | stored {job : CollectionJob} {amount : RawAmount} {tx : NewSignedOutboundTx}
      {db : CollectorDb} {row : OutboundTxRecord} (ha : a = .store)
      (hpc : pc = .signed job amount tx)
      (h : s.db.insertSignedCollectTx s.now job.collection.id tx amount = .ok (db, row)) :
      WorkerMove cfg s w pc a ⟨db, s.recordStored job.collection.id row,
        .broadcasting job.collection.id row⟩
  /-- A transaction is replaced. -/
  | replaced {c : Uuid} {tx : OutboundTxRecord} {replacement : NewSignedOutboundTx}
      {db : CollectorDb} {row : OutboundTxRecord}
      (ha : a = .storeReplacement) (hpc : pc = .replacementSigned c tx replacement)
      (h : s.db.replaceSignedTx s.now tx.id replacement = .ok (db, row)) :
      WorkerMove cfg s w pc a ⟨db, s.recordStored c row, .broadcasting c row⟩
  | markedBroadcast {c : Uuid} {tx : OutboundTxRecord} {db : CollectorDb}
      {row : OutboundTxRecord} (hpc : pc = .broadcasted c tx)
      (h : s.db.markBroadcast s.now tx.id = .ok (db, row)) :
      WorkerMove cfg s w pc a ⟨db, s.history, .idle⟩
  | confirmed {c : Uuid} {tx : OutboundTxRecord} {block : ChainBlockRef} {db : CollectorDb}
      {row : OutboundTxRecord} (hpc : pc = .confirmable c tx block)
      (h : s.db.markConfirmed s.now tx.id block = .ok (db, row)) :
      WorkerMove cfg s w pc a ⟨db, s.recordFinalised cfg w tx.id block, .idle⟩
  | failed {c : Uuid} {tx : OutboundTxRecord} {block : ChainBlockRef} {db : CollectorDb}
      {row : OutboundTxRecord} (hpc : pc = .reverted c tx block)
      (h : s.db.markFailed s.now tx.id revertedError = .ok (db, row)) :
      WorkerMove cfg s w pc a ⟨db, s.recordFinalised cfg w tx.id block, .idle⟩

variable {cfg : CollectorConfig} {s : CollectorState} {w : ℕ} {pc : CollectorPc}
  {a : WorkerAction} {r : WorkerResult}

/-! ## The three kinds of steps -/

/-- What holds of a worker that gives up and of one that goes on with a result holds after a
fallible step without a transaction. -/
theorem after_proceed {ε β : Type} {x : Except ε β} {next : β → CollectorPc}
    {Q : WorkerResult → Prop} (h : s.proceed x next = some r) (hidle : Q ⟨s.db, s.history, .idle⟩)
    (hok : ∀ b, x = .ok b → Q ⟨s.db, s.history, next b⟩) : Q r := by
  unfold proceed stay at h
  cases x with
  | error e =>
    rw [← Option.some.inj h]
    exact hidle
  | ok b =>
    rw [← Option.some.inj h]
    exact hok b rfl

/-- What holds after a rollback and after what a transaction does holds after it. -/
theorem after_commit {ε β : Type} {x : Except ε (CollectorDb × β)} {record : β → CollectorHistory}
    {next : β → CollectorPc} {Q : WorkerResult → Prop} (h : s.commit x record next = some r)
    (hidle : Q ⟨s.db, s.history, .idle⟩)
    (hok : ∀ db b, x = .ok (db, b) → Q ⟨db, record b, next b⟩) : Q r := by
  unfold commit stay at h
  cases x with
  | error e =>
    rw [← Option.some.inj h]
    exact hidle
  | ok p =>
    obtain ⟨db, b⟩ := p
    rw [← Option.some.inj h]
    exact hok db b rfl

/-- Going back to idle is quiet. -/
theorem move_idle : WorkerMove cfg s w pc a ⟨s.db, s.history, .idle⟩ :=
  .quiet (Or.inl rfl) (Or.inl rfl) (fun _ _ => rfl) (fun _ _ h => by cases h)

/-- A fallible step without a transaction keeps or drops what the worker
holds. -/
theorem move_of_proceed {ε β : Type} {x : Except ε β} {next : β → CollectorPc}
    (h : s.proceed x next = some r)
    (hc : ∀ b, x = .ok b → (next b).claimed? = none ∨ (next b).claimed? = pc.claimed?)
    (hh : ∀ b, x = .ok b → (next b).holding? = pc.holding?)
    (hb : ∀ b i tx, next b ≠ .broadcasting i tx) : WorkerMove cfg s w pc a r :=
  after_proceed h move_idle (fun b hx => .quiet (hc b hx) (Or.inr (hh b hx))
    (fun h₁ h₂ => absurd ((hh b hx).symm.trans h₁) h₂) (hb b))

/-- A transaction is rolled back, which is quiet, or does what it does. -/
theorem move_of_commit {ε β : Type} {x : Except ε (CollectorDb × β)} {record : β → CollectorHistory}
    {next : β → CollectorPc} (h : s.commit x record next = some r)
    (hok : ∀ db b, x = .ok (db, b) → WorkerMove cfg s w pc a ⟨db, record b, next b⟩) :
    WorkerMove cfg s w pc a r :=
  after_commit h move_idle hok

/-- A quiet step of a worker that holds nothing. -/
theorem move_of_stay {pc' : CollectorPc} (h : s.stay pc' = some r)
    (hc : pc'.claimed? = none ∨ pc'.claimed? = pc.claimed?) (hh : pc'.holding? = none)
    (hpc : pc.holding? = none) (hb : ∀ i tx, pc' ≠ .broadcasting i tx) :
    WorkerMove cfg s w pc a r := by
  unfold stay at h
  rw [← Option.some.inj h]
  exact .quiet hc (Or.inl hh) (fun _ h => absurd hpc h) hb

/-! ## The claims -/

theorem leaseOnly_leased (now : Timestamp) (leaseSeconds : ℕ) (workerId : String) :
    LeaseOnly (CollectorDb.leased now leaseSeconds workerId) :=
  ⟨fun _ => rfl, fun _ => rfl, fun _ => rfl, fun _ => rfl, fun _ => rfl, fun _ => rfl⟩

/-- Claiming a job writes a lease, or does nothing. -/
theorem move_claimJob (h : workerStep cfg s w .noBroadcast .claimJob = some r) :
    WorkerMove cfg s w .noBroadcast .claimJob r := by
  refine move_of_commit h (fun db job hx => ?_)
  obtain ⟨rfl, rfl⟩ | ⟨c, hc, -, -, ⟨j, rfl, -⟩, rfl⟩ := CollectorDb.claimCollectionJob_cases hx
  · exact move_idle
  · exact .leased hc
      ⟨fun _ => rfl, fun _ => rfl, fun _ => rfl, fun _ => rfl, fun _ => rfl, fun _ => rfl⟩
      (fun p hp => by cases hp) (fun i tx hi => by cases hi) rfl rfl

/-- Claiming a stored transaction writes a lease, or does nothing. -/
theorem move_claimCollectTx {cs : CollectionRecordStatus} {os : OutboundTxStatus}
    {none_ : CollectorPc} {some_ : Uuid → OutboundTxRecord → CollectorPc}
    (h : s.commit (s.db.claimCollectTx cs os s.now cfg.claimLeaseSeconds cfg.workerId cfg.chainId
        cfg.tokenAddress) (fun _ => s.history)
      (fun x => match x with | none => none_ | some (c, tx) => some_ c tx) = some r)
    (hnone : none_.claimed? = none ∧ none_.holding? = none ∧ ∀ i tx, none_ ≠ .broadcasting i tx)
    (hclaimed : ∀ c tx, (some_ c tx).claimed? = none
      ∨ a = .claimForReceipt ∧ (some_ c tx).claimed? = some (c, tx))
    (hbroadcasting : ∀ c tx i o, some_ c tx = .broadcasting i o → tx = o)
    (hholding : ∀ c tx, (some_ c tx).holding? = none) (hpc : pc.holding? = none) :
    WorkerMove cfg s w pc a r := by
  refine move_of_commit h (fun db x hx => ?_)
  obtain ⟨rfl, rfl⟩ | ⟨c, hc, o, -, -, ho, rfl, rfl⟩ := CollectorDb.claimCollectTx_cases hx
  · exact .quiet (Or.inl hnone.1) (Or.inl hnone.2.1) (fun _ h => absurd hpc h) hnone.2.2
  · refine .leased hc (leaseOnly_leased _ _ _) (fun p hp => ?_) (fun i tx hi => ?_) hpc
      (hholding c.id o)
    · rcases hclaimed c.id o with hn | ⟨ha, hs⟩
      · exact absurd (hn.symm.trans hp) (by simp)
      · have hpe : (c.id, o) = p := Option.some.inj (hs.symm.trans hp)
        rw [← hpe]
        exact ⟨ha, rfl, ho⟩
    · rw [ho, hbroadcasting c.id o i tx hi]

/-! ## Completeness -/

/-- **The list is complete.** -/
theorem workerStep_move (h : workerStep cfg s w pc a = some r) :
    WorkerMove cfg s w pc a r := by
  unfold workerStep at h
  split at h
  case h_1 =>
    exact move_claimCollectTx h ⟨rfl, rfl, fun _ _ h => by cases h⟩ (fun _ _ => Or.inl rfl)
      (fun _ _ _ _ hi => (CollectorPc.broadcasting.inj hi).2) (fun _ _ => rfl) rfl
  case h_2 =>
    exact move_claimCollectTx h ⟨rfl, rfl, fun _ _ h => by cases h⟩ (fun _ _ => Or.inr ⟨rfl, rfl⟩)
      (fun _ _ _ _ hi => by cases hi) (fun _ _ => rfl) rfl
  case h_3 => exact move_claimJob h
  case h_4 c tx answer =>
    rw [← Option.some.inj h]
    by_cases hans : answer = tx.txHash
    · rw [if_pos hans]
      exact .sent rfl (Or.inl rfl)
    · rw [if_neg hans]
      exact .sent rfl (Or.inr rfl)
  case h_5 => exact move_of_commit h (fun db row hx => .markedBroadcast rfl hx)
  case h_6 c tx answer =>
    refine move_of_stay h ?_ ?_ rfl ?_
    all_goals unfold afterReceipt
    · repeat' split
      all_goals first | exact Or.inl rfl | exact Or.inr rfl
    · repeat' split
      all_goals rfl
    · intro i o
      repeat' split
      all_goals exact fun h => by cases h
  case h_7 =>
    refine move_of_stay h ?_ ?_ rfl ?_
    · split
      · exact Or.inr rfl
      · exact Or.inl rfl
    · split <;> rfl
    · intro i o
      split <;> exact fun h => by cases h
  case h_8 =>
    refine move_of_stay h ?_ ?_ rfl ?_
    all_goals unfold afterBlock
    · repeat' split
      all_goals first | exact Or.inl rfl | exact Or.inr rfl
    · repeat' split
      all_goals rfl
    · intro i o
      repeat' split
      all_goals exact fun h => by cases h
  case h_9 => exact move_of_commit h (fun db row hx => .confirmed rfl hx)
  case h_10 => exact move_of_commit h (fun db row hx => .failed rfl hx)
  case h_11 =>
    exact move_of_proceed h (fun _ _ => Or.inr rfl) (fun _ _ => rfl) (fun _ _ _ h => by cases h)
  case h_12 =>
    exact move_of_proceed h (fun _ _ => Or.inr rfl) (fun _ _ => rfl) (fun _ _ _ h => by cases h)
  case h_13 =>
    exact move_of_proceed h (fun _ _ => Or.inr rfl) (fun _ _ => rfl) (fun _ _ _ h => by cases h)
  case h_14 => exact move_of_commit h (fun db row hx => .replaced rfl rfl hx)
  case h_15 =>
    exact move_of_proceed h (fun _ _ => Or.inl rfl) (fun _ _ => rfl) (fun _ _ _ h => by cases h)
  case h_16 job payer amount fees pendingNonce =>
    refine move_of_commit h (fun db x hx => ?_)
    obtain ⟨rfl, hn⟩ := CollectorDb.reserveNonce_eq_ok hx
    cases x with
    | error e => exact .reserved rfl rfl (Or.inr ⟨rfl, hn.2 e rfl⟩)
    | ok n => exact .reserved rfl rfl (Or.inl ⟨n.nonce, rfl, (hn.1 n rfl).2.2⟩)
  case h_17 =>
    refine move_of_proceed h (fun _ _ => Or.inl rfl) (fun tx htx => ?_) (fun _ _ _ h => by cases h)
    unfold checkedCollectTx at htx
    obtain ⟨_, _, htx⟩ := Except.bind_eq_ok.mp htx
    obtain ⟨_, _, htx⟩ := Except.bind_eq_ok.mp htx
    rw [← Except.pure_eq_ok.mp htx]
    rfl
  case h_18 => exact move_of_commit h (fun db row hx => .stored rfl rfl hx)
  case h_19 =>
    rw [← Option.some.inj h]
    exact move_idle
  case h_20 => cases h

/-! ## Steps of the system -/

/-- **A change of the surroundings**: orders, clock or chain. -/
structure Surroundings (s t : CollectorState) : Prop where
  db : ∃ orders, t.db = { s.db with orders := orders }
  pc : t.pc = s.pc
  history : t.history = s.history
  watched : (t.chain = s.chain ∧ t.watched = s.watched)
    ∨ t.watched = fun w => t.chain :: s.watched w

/-- A step that changes nothing. -/
theorem Surroundings.refl (s : CollectorState) : Surroundings s s :=
  ⟨⟨s.db.orders, rfl⟩, rfl, rfl, Or.inl ⟨rfl, rfl⟩⟩

/-- **What a step of the system can do**: a collection is created, or the
surroundings change, or a worker moves. -/
theorem step_cases {cfg : ℕ → CollectorConfig} {t : CollectorState} {a : CollectorAction}
    (h : step cfg s a = some t) :
    (∃ command, (∀ d ∈ s.db.collections, d.id ≠ command.collectionId)
        ∧ CollectorDb.activePerChild
          (s.db.collections ++ [CollectorDb.newCollection s.now command]) = true
        ∧ t = { s with db := { s.db with
            collections := s.db.collections ++ [CollectorDb.newCollection s.now command] } })
      ∨ Surroundings s t
      ∨ ∃ w b r, a = .worker w b ∧ workerStep (cfg w) s w (s.pc w) b = some r
        ∧ WorkerMove (cfg w) s w (s.pc w) b r ∧ t = s.moved w b r := by
  cases a with
  | createCollection command =>
    simp only [step] at h
    split at h
    · rw [← Option.some.inj h]
      exact Or.inr (Or.inl (Surroundings.refl s))
    · rename_i db c hdb
      obtain rfl | ⟨hid, hactive, rfl⟩ := CollectorDb.createCollectionIdempotent_cases hdb
      · rw [← Option.some.inj h]
        exact Or.inr (Or.inl (Surroundings.refl s))
      · exact Or.inl ⟨command, hid, hactive, (Option.some.inj h).symm⟩
  | setOrders orders =>
    rw [← Option.some.inj h]
    exact Or.inr (Or.inl ⟨⟨orders, rfl⟩, rfl, rfl, Or.inl ⟨rfl, rfl⟩⟩)
  | advanceClock elapsed =>
    rw [← Option.some.inj h]
    exact Or.inr (Or.inl ⟨⟨s.db.orders, rfl⟩, rfl, rfl, Or.inl ⟨rfl, rfl⟩⟩)
  | newChain chain =>
    rw [← Option.some.inj h]
    exact Or.inr (Or.inl ⟨⟨s.db.orders, rfl⟩, rfl, rfl, Or.inr rfl⟩)
  | worker w b =>
    obtain ⟨r, hr, ht⟩ := Option.map_eq_some_iff.mp h
    exact Or.inr (Or.inr ⟨w, b, r, rfl, hr, workerStep_move hr, ht.symm⟩)

/-- A worker that takes no step stays where it is. -/
theorem pc_of_run {cfg : ℕ → CollectorConfig} {s t : CollectorState} {as : List CollectorAction}
    {v : ℕ} (hv : ∀ w b, .worker w b ∈ as → w ≠ v) (hr : runSteps (step cfg) s as = some t) :
    t.pc v = s.pc v := by
  induction as generalizing s with
  | nil => rw [← Option.some.inj hr]
  | cons a as ih =>
    obtain ⟨u, hu, hr⟩ := runSteps_cons_eq_some.mp hr
    rw [ih (fun w b hw => hv w b (List.mem_cons_of_mem a hw)) hr]
    obtain ⟨command, -, -, rfl⟩ | hsur | ⟨w, b, r, rfl, -, -, rfl⟩ := step_cases hu
    · rfl
    · rw [hsur.pc]
    · exact Function.update_of_ne (hv w b List.mem_cons_self).symm _ _

end CollectorState
