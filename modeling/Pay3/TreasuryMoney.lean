import Pay3.LedgerInvariant

/-!
# Treasury money and the address for problem funds

A sweep of problem funds takes the whole balance of the child account. For an
order that is paid, the balance holds what was paid in time as well, until the
treasury has collected it, and nothing in the request or in the amount it
resolves to looks at that. The two passes of the enqueuer keep the two kinds of
money apart only if the sweep to the treasury is through by the time the other
one is asked for.

`LedgerDb.Swept` is that state of an order: whatever it received besides
confirmed late payments has gone to the treasury. `KeepsApart` asks for it when
a sweep of problem funds is granted, and asks that no other money arrives while
such a sweep is open. Then every amount it can resolve to is late money.
-/

/-- **What an order has received**: all its payments that are still on the
chain. -/
def receivedTotal := totalWhere (fun p => !decide (p.chainStatus = .orphaned))

/-- **A job that was read from a collection**, perhaps before the collection got
its amount. -/
structure CollectionRecord.JobOf (c job : CollectionRecord) : Prop where
  terms : job.terms = c.terms
  amount : job.amountRaw = none ∨ job.amountRaw = c.amountRaw

namespace LedgerDb

/-- **Sweeps of problem funds spare the treasury's money.** For an order paid
without an operator's help, whatever amount a collection to the address for
problem funds resolves to is part of the confirmed late payments not collected
yet. The confirmed collections have been executed, perhaps others as well, and
the balance is what was received less what was executed. -/
def SparesTreasury (config : CollectionServiceConfig) (db : LedgerDb) : Prop :=
  ∀ o ∈ db.payment.orders, o.status = .paid → db.hasOverride o.id = false →
    ∀ c ∈ db.collector.collections, c.orderId = o.id → c.toAddress = config.problemFundsAddress →
      CollectorDb.isAttachable c.status = true →
    ∀ executed : CollectionRecord → Bool,
      (∀ d ∈ db.collector.collections, d.status = .confirmed → executed d = true) →
    ∀ job, c.JobOf job → ∀ balance amount : RawAmount,
      balance.toNat + db.collectedWhere executed o.id = receivedTotal db.payment.payments o.id →
      resolveCollectionAmount job balance = .ok amount →
      amount.toNat + db.collectedWhere
          (fun d => executed d && decide (d.toAddress = config.problemFundsAddress)) o.id
        ≤ confirmedProblemTotal db.payment.payments o.id

/-- **The treasury has its money**: what an order received beyond its confirmed
late payments has been collected to another address than that for problem
funds. -/
def Swept (config : CollectionServiceConfig) (db : LedgerDb) (orderId : Uuid) : Prop :=
  receivedTotal db.payment.payments orderId
    ≤ confirmedProblemTotal db.payment.payments orderId
      + db.collectedWhere (fun c => !decide (c.toAddress = config.problemFundsAddress)
        && decide (c.status = .confirmed)) orderId

instance (config : CollectionServiceConfig) (db : LedgerDb) (orderId : Uuid) :
    Decidable (db.Swept config orderId) :=
  inferInstanceAs (Decidable (_ ≤ _))

/-- The order has a collection to the address for problem funds that has not
ended. -/
def hasOpenProblemSweep (config : CollectionServiceConfig) (db : LedgerDb) (orderId : Uuid) :
    Bool :=
  db.collector.collections.any (fun c => decide (c.orderId = orderId)
    && decide (c.toAddress = config.problemFundsAddress) && c.status.isActive)

/-- **Every order with an open sweep of problem funds is swept**, if it is paid
without an override. -/
def OpenSweepsApart (config : CollectionServiceConfig) (db : LedgerDb) : Prop :=
  ∀ o ∈ db.payment.orders, o.status = .paid → db.hasOverride o.id = false →
    db.hasOpenProblemSweep config o.id = true → db.Swept config o.id

end LedgerDb

/-! ## The condition -/

/-- The action replaces the transaction of a collection. -/
def LedgerAction.replaces : LedgerAction → CollectionRecord → Bool
  | .collector (.replaceSignedTx oldTxId _), c => decide (c.outboundTxId = some oldTxId)
  | _, _ => false

/-- **A step that keeps the two kinds of money apart.** -/
structure KeepsApart (config : CollectionServiceConfig) (s : LedgerSystem)
    (a : Timestamp × LedgerAction) : Prop where
  /-- A sweep of the problem funds of a paid order is asked for when the
  treasury has its money. -/
  requested : ∀ r ∈ s.request? a.2, r.1 = .problemFunds → ∀ o ∈ s.db.payment.orders,
    o.id = r.2.1.orderId → o.status = .paid → s.db.hasOverride o.id = false →
    s.db.hasActiveCollection o.id = false → s.db.Swept config o.id
  /-- So is the replacement of one that had ended. -/
  revived : ∀ c ∈ s.db.collector.collections, a.2.replaces c = true →
    c.toAddress = config.problemFundsAddress → c.status.isActive = false →
    ∀ o ∈ s.db.payment.orders, o.id = c.orderId → o.status = .paid →
    s.db.hasOverride o.id = false → s.db.Swept config o.id
  /-- While a sweep of problem funds is open, its order does not become paid and
  receives nothing but confirmed late payments. -/
  received : ∀ op ∈ a.2.paymentOp?, ∀ payment ∈ (runPaymentOp s.db.payment a.1 op).toOption,
    ∀ o ∈ s.db.payment.orders, s.db.hasOpenProblemSweep config o.id = true →
    ∀ o' ∈ payment.orders, o'.id = o.id → o'.status = .paid →
    (s.db.setPayment payment).hasOverride o.id = false →
    o.status = .paid ∧ receivedTotal payment.payments o.id
        + confirmedProblemTotal s.db.payment.payments o.id
      ≤ receivedTotal s.db.payment.payments o.id + confirmedProblemTotal payment.payments o.id

set_option synthInstance.maxSize 512 in
instance (config : CollectionServiceConfig) (s : LedgerSystem) (a : Timestamp × LedgerAction) :
    Decidable (KeepsApart config s a) :=
  decidable_of_iff
    ((∀ r ∈ s.request? a.2, r.1 = .problemFunds → ∀ o ∈ s.db.payment.orders,
        o.id = r.2.1.orderId → o.status = .paid → s.db.hasOverride o.id = false →
        s.db.hasActiveCollection o.id = false → s.db.Swept config o.id)
      ∧ (∀ c ∈ s.db.collector.collections, a.2.replaces c = true →
        c.toAddress = config.problemFundsAddress → c.status.isActive = false →
        ∀ o ∈ s.db.payment.orders, o.id = c.orderId → o.status = .paid →
        s.db.hasOverride o.id = false → s.db.Swept config o.id)
      ∧ (∀ op ∈ a.2.paymentOp?, ∀ payment ∈ (runPaymentOp s.db.payment a.1 op).toOption,
        ∀ o ∈ s.db.payment.orders, s.db.hasOpenProblemSweep config o.id = true →
        ∀ o' ∈ payment.orders, o'.id = o.id → o'.status = .paid →
        (s.db.setPayment payment).hasOverride o.id = false →
        o.status = .paid ∧ receivedTotal payment.payments o.id
            + confirmedProblemTotal s.db.payment.payments o.id
          ≤ receivedTotal s.db.payment.payments o.id
            + confirmedProblemTotal payment.payments o.id))
    ⟨fun h => ⟨h.1, h.2.1, h.2.2⟩, fun h => ⟨h.1, h.2, h.3⟩⟩

/-! ## Swept orders spare the treasury -/

/-- No collection resolves to more than the balance. -/
theorem resolveCollectionAmount_le {c : CollectionRecord} {balance amount : RawAmount}
    (h : resolveCollectionAmount c balance = .ok amount) : amount.toNat ≤ balance.toNat := by
  unfold resolveCollectionAmount at h
  dsimp only at h
  split at h
  · split at h
    · obtain ⟨_, herr, -⟩ := Except.bind_eq_ok.mp h
      cases herr
    · rename_i hle
      obtain ⟨resolved, hresolved, h⟩ := Except.bind_eq_ok.mp h
      obtain ⟨-, h⟩ := ensure_bind_eq_ok.mp h
      rw [← Except.pure_eq_ok.mp h, ← Except.ok.inj hresolved]
      exact Nat.not_lt.mp hle
  · obtain ⟨resolved, hresolved, h⟩ := Except.bind_eq_ok.mp h
    obtain ⟨-, h⟩ := ensure_bind_eq_ok.mp h
    rw [← Except.pure_eq_ok.mp h, ← Except.ok.inj hresolved]

namespace LedgerDb

variable {db : LedgerDb} {config : CollectionServiceConfig} {now : Timestamp}

/-- **A swept order leaves only late money in the balance.** -/
theorem Swept.balance_le {orderId : Uuid} (h : db.Swept config orderId)
    {executed : CollectionRecord → Bool}
    (hexecuted : ∀ d ∈ db.collector.collections, d.status = .confirmed → executed d = true)
    {balance : ℕ}
    (hbalance : balance + db.collectedWhere executed orderId
      = receivedTotal db.payment.payments orderId) :
    balance + db.collectedWhere
        (fun d => executed d && decide (d.toAddress = config.problemFundsAddress)) orderId
      ≤ confirmedProblemTotal db.payment.payments orderId := by
  unfold Swept at h
  have hconfirmed : db.collectedWhere (fun c => !decide (c.toAddress = config.problemFundsAddress)
        && decide (c.status = .confirmed)) orderId
      ≤ db.collectedWhere (fun d => executed d
        && !decide (d.toAddress = config.problemFundsAddress)) orderId := by
    refine collectedWhere_mono (fun c hc _ hq => ?_)
    rw [Bool.and_eq_true, decide_eq_true_eq] at hq
    rw [hexecuted c hc hq.2, hq.1]
    rfl
  have hparts : db.collectedWhere (fun d => executed d
        && !decide (d.toAddress = config.problemFundsAddress)) orderId
      + db.collectedWhere (fun d => executed d
        && decide (d.toAddress = config.problemFundsAddress)) orderId
      ≤ db.collectedWhere executed orderId := by
    refine collectedWhere_add_le (fun c hq => ?_) (fun c hq => ?_) (fun c hq hq' => ?_)
    · exact (Bool.and_eq_true _ _ ▸ hq).1
    · exact (Bool.and_eq_true _ _ ▸ hq).1
    · simp only [Bool.and_eq_true, Bool.not_eq_eq_eq_not, Bool.not_true, decide_eq_false_iff_not,
        decide_eq_true_eq] at hq hq'
      exact hq.2 hq'.2
  omega

/-- A collection a transaction can be attached to has not ended. -/
theorem isActive_of_isAttachable {s : CollectionRecordStatus}
    (h : CollectorDb.isAttachable s = true) : s.isActive = true := by
  cases s <;> first | rfl | cases h

/-- **Open sweeps of swept orders spare the treasury.** -/
theorem OpenSweepsApart.sparesTreasury (h : db.OpenSweepsApart config) :
    db.SparesTreasury config := by
  intro o ho hpaid hov c hc hid hto hattach executed hexecuted job hjob balance amount hbalance
    hamount
  have hopen : db.hasOpenProblemSweep config o.id = true := by
    refine List.any_eq_true.mpr ⟨c, hc, ?_⟩
    rw [decide_eq_true hid, decide_eq_true hto, isActive_of_isAttachable hattach]
    rfl
  have hle := resolveCollectionAmount_le hamount
  have hbound := (h o ho hpaid hov hopen).balance_le hexecuted hbalance
  omega

end LedgerDb

/-! ## What keeps open sweeps apart -/

namespace LedgerDb

variable {db : LedgerDb} {config : CollectionServiceConfig} {now : Timestamp}

/-- **A new order** has no collection. -/
theorem OpenSweepsApart.withOrder (h : db.OpenSweepsApart config) (hinv : LedgerInv db now)
    {command : CreateOrderCommand} (hc : db.Creates command) :
    (db.withOrder command).OpenSweepsApart config := by
  intro o ho hpaid hov hopen
  rcases List.mem_append.mp ho with ho | ho
  · exact h o ho hpaid hov hopen
  · obtain rfl := List.mem_singleton.mp ho
    obtain ⟨c, hmem, hsel⟩ := List.any_eq_true.mp hopen
    simp only [Bool.and_eq_true, decide_eq_true_eq] at hsel
    obtain ⟨o', ho', hof⟩ := hinv.collections c hmem
    exact absurd (hof.orderId.symm.trans hsel.1.1) (hc.fresh o' ho')

/-- **A transaction on payments** that brings the orders with an open sweep
nothing but confirmed late payments. -/
theorem OpenSweepsApart.setPayment (h : db.OpenSweepsApart config) {payment : PaymentDb}
    {orderIds : List Uuid} (hc : PaymentChange db.payment now orderIds payment)
    (hreceived : ∀ o ∈ db.payment.orders, db.hasOpenProblemSweep config o.id = true →
      ∀ o' ∈ payment.orders, o'.id = o.id → o'.status = .paid →
      (db.setPayment payment).hasOverride o.id = false →
      o.status = .paid ∧ receivedTotal payment.payments o.id
          + confirmedProblemTotal db.payment.payments o.id
        ≤ receivedTotal db.payment.payments o.id + confirmedProblemTotal payment.payments o.id) :
    (db.setPayment payment).OpenSweepsApart config := by
  intro o' ho' hpaid hov hopen
  obtain ⟨o, ho, hterms⟩ := hc.exists_order ho'
  have hid : o'.id = o.id := congrArg OrderTerms.id hterms
  rw [hid] at hov hopen ⊢
  obtain ⟨hwas, hle⟩ := hreceived o ho hopen o' ho' hid hpaid hov
  have hov' : db.hasOverride o.id = false := by
    by_contra hne
    rw [Bool.not_eq_false] at hne
    rw [hc.hasOverride hne] at hov
    cases hov
  have hswept := h o ho hwas hov' hopen
  show receivedTotal payment.payments o.id
    ≤ confirmedProblemTotal payment.payments o.id + db.collectedWhere _ o.id
  unfold Swept at hswept
  omega

/-- The child account of a granted request has no active collection. -/
theorem hasActiveCollection_of_grants (hinv : LedgerInv db now)
    {keccak256 : List UInt8 → BitVec 256} {route : CollectionRoute}
    {input : CreateCollectionInput} {collectionId : Uuid} {command : CreateCollectionCommand}
    {o : OrderRecord} (hg : Grants keccak256 config db now route input collectionId command o) :
    db.hasActiveCollection o.id = false := by
  by_contra hne
  rw [Bool.not_eq_false] at hne
  obtain ⟨c, hc, hsel⟩ := List.any_eq_true.mp hne
  simp only [Bool.and_eq_true, decide_eq_true_eq] at hsel
  obtain ⟨o', ho', hof⟩ := hinv.collections c hc
  have heq : o' = o := List.inj_on_of_nodup_map hinv.reflect.ids ho' hg.mem
    (hof.orderId.symm.trans hsel.1)
  have hchild : c.childAccountId = command.childAccountId := by
    rw [hof.childAccountId, heq, hg.command_eq]
    rfl
  have hmem : c ∈ db.collector.collections.filter
      (fun d => decide (d.childAccountId = command.childAccountId) && d.status.isActive) :=
    List.mem_filter.mpr ⟨hc, by simp [hchild, hsel.2]⟩
  obtain ⟨d, hd⟩ : ∃ d, db.collector.selectActiveCollectionByChildAccount command.childAccountId
      = some d := firstBy_isSome hmem
  rw [hg.inactive] at hd
  cases hd

/-- **A granted request**: one for problem funds finds the order swept, and
another takes nothing away. -/
theorem OpenSweepsApart.withCollection (h : db.OpenSweepsApart config) (hinv : LedgerInv db now)
    {keccak256 : List UInt8 → BitVec 256} {route : CollectionRoute}
    {input : CreateCollectionInput} {collectionId : Uuid} {command : CreateCollectionCommand}
    {granted : OrderRecord}
    (hg : Grants keccak256 config db now route input collectionId command granted)
    (hrequested : route = .problemFunds → granted.status = .paid →
      db.hasOverride granted.id = false → db.hasActiveCollection granted.id = false →
      db.Swept config granted.id) :
    (db.withCollection now command).OpenSweepsApart config := by
  intro o ho hpaid hov hopen
  have hswept : db.Swept config o.id := by
    obtain ⟨c, hc, hsel⟩ := List.any_eq_true.mp hopen
    rcases List.mem_append.mp hc with hold | hnew
    · exact h o ho hpaid hov (List.any_eq_true.mpr ⟨c, hold, hsel⟩)
    · obtain rfl := List.mem_singleton.mp hnew
      simp only [Bool.and_eq_true, decide_eq_true_eq] at hsel
      have hgid : granted.id = o.id := by
        rw [← hsel.1.1]
        show granted.id = command.orderId
        rw [hg.command_eq]
        rfl
      obtain rfl := List.inj_on_of_nodup_map hinv.reflect.ids hg.mem ho hgid
      refine hrequested ?_ hpaid hov (hasActiveCollection_of_grants hinv hg)
      cases route with
      | problemFunds => rfl
      | treasury =>
        have hto : command.toAddress = config.problemFundsAddress := hsel.1.2
        rw [hg.command_eq] at hto
        exact absurd hto.symm config.problemFunds_ne_treasury
  refine Nat.le_trans hswept (Nat.add_le_add_left ?_ _)
  rw [collectedWhere_withCollection]
  exact Nat.le_add_right _ _

/-- **A call of the collector** that revives no sweep before its time. -/
theorem OpenSweepsApart.setCollector (h : db.OpenSweepsApart config) {call : CollectionCall}
    {collector : CollectorDb} (hmoved : MovedBy call db.collector collector)
    (hrevived : ∀ oldTxId replacement, call = .replaceSignedTx oldTxId replacement →
      ∀ c ∈ db.collector.collections, c.outboundTxId = some oldTxId →
      c.toAddress = config.problemFundsAddress → c.status.isActive = false →
      ∀ o ∈ db.payment.orders, o.id = c.orderId → o.status = .paid →
      db.hasOverride o.id = false → db.Swept config o.id) :
    (db.setCollector collector).OpenSweepsApart config := by
  intro o ho hpaid hov hopen
  have hswept : db.Swept config o.id := by
    obtain ⟨c', hc', hsel⟩ := List.any_eq_true.mp hopen
    obtain ⟨c, hc, hmove⟩ := hmoved.exists_of_mem hc'
    simp only [Bool.and_eq_true, decide_eq_true_eq] at hsel
    have hid : c.orderId = o.id :=
      (congrArg CollectionTerms.orderId hmove.terms).symm.trans hsel.1.1
    have hto : c.toAddress = config.problemFundsAddress :=
      (congrArg CollectionTerms.toAddress hmove.terms).symm.trans hsel.1.2
    by_cases hactive : c.status.isActive = true
    · refine h o ho hpaid hov (List.any_eq_true.mpr ⟨c, hc, ?_⟩)
      rw [decide_eq_true hid, decide_eq_true hto, hactive]
      rfl
    · rcases hmove.active hsel.2 with hwas | ⟨oldTxId, replacement, hcall, htx⟩
      · exact absurd hwas hactive
      · exact hrevived oldTxId replacement hcall c hc htx hto (by simpa using hactive) o ho
          hid.symm hpaid hov
  refine Nat.le_trans hswept (Nat.add_le_add_left ?_ _)
  refine collectedWhere_le_of_moved hmoved (fun c _ c' hmove hq => ?_) o.id
  rw [Bool.and_eq_true, decide_eq_true_eq] at hq ⊢
  have hto : c'.toAddress = c.toAddress := congrArg CollectionTerms.toAddress hmove.terms
  rw [hto]
  exact ⟨hq.1, hmove.confirmed hq.2⟩

end LedgerDb

namespace LedgerSystem

variable {keccak256 : List UInt8 → BitVec 256} {config : CollectionServiceConfig}
  {s s' : LedgerSystem} {a : Timestamp × LedgerAction}

/-- **One step** that keeps the two kinds of money apart keeps the open sweeps
apart. -/
theorem openSweepsApart_of_step (hinv : LedgerInv s.db s.now) (h : s.db.OpenSweepsApart config)
    (hkeeps : KeepsApart config s a) (hs : step keccak256 config s a = some s') :
    s'.db.OpenSweepsApart config := by
  obtain ⟨hle, hnow, hchange⟩ := step_eq_some hs
  have hinv := hinv.mono hle
  generalize s'.db = db' at hchange ⊢
  rw [hnow] at hchange hinv
  cases hchange with
  | unchanged => exact h
  | createOrder command ha hc => exact h.withOrder hinv hc
  | payment op payment ha hop =>
    obtain ⟨orderIds, hc⟩ := paymentChange_of_run hop
    refine h.setPayment hc (hkeeps.received op ?_ payment ?_)
    · rw [ha]
      rfl
    · rw [hop]
      rfl
  | collection route input collectionId command o ha hg =>
    obtain ⟨r, hr, hparts⟩ := Option.map_eq_some_iff.mp ha
    obtain ⟨rfl, hrest⟩ := Prod.mk.inj hparts
    obtain ⟨rfl, -⟩ := Prod.mk.inj hrest
    exact h.withCollection hinv hg
      (fun hroute => hkeeps.requested r hr hroute o hg.mem hg.id)
  | collector call collector ha hcall hx =>
    refine h.setCollector (movedBy_of_runCall hinv.coherence hcall hx) ?_
    rintro oldTxId replacement rfl c hc htx
    refine hkeeps.revived c hc ?_
    rw [ha]
    exact decide_eq_true htx

theorem Initial.openSweepsApart (h : Initial s) : s.db.OpenSweepsApart config := by
  intro o ho
  rw [h.noOrders.orders] at ho
  exact absurd ho List.not_mem_nil

/-- **Sweeps of problem funds spare the treasury's money** in every state of a
run that keeps the two kinds of money apart at every step. -/
theorem sparesTreasury_of_run {as : List (Timestamp × LedgerAction)} (hinit : Initial s)
    (hkeeps : StepsMeet (step keccak256 config) (KeepsApart config) s as)
    (hr : runSteps (step keccak256 config) s as = some s') : s'.db.SparesTreasury config := by
  have hboth : LedgerInv s'.db s'.now ∧ s'.db.OpenSweepsApart config :=
    inv_of_run (I := fun s => LedgerInv s.db s.now ∧ s.db.OpenSweepsApart config)
      (P := KeepsApart config)
      (fun _ _ _ h hk hs => ⟨ledgerInv_of_step h.1 hs, openSweepsApart_of_step h.1 h.2 hk hs⟩)
      ⟨hinit.ledgerInv, hinit.openSweepsApart⟩ hkeeps hr
  exact hboth.2.sparesTreasury

end LedgerSystem

namespace SmallLedger

/-- The late payment is to be swept once the treasury has its money. -/
def lateSweepAfterTreasury : List (Timestamp × LedgerAction) :=
  paidOrder ++ sweepRequested 10 0xd1 ++ swept 11 0xd1 0xe1 0x7e 100 ++ latePayment
    ++ problemSweepRequested 17 0xd2

/-- The late payment is to be swept though the sweep to the treasury failed. -/
def lateSweepAfterFailure : List (Timestamp × LedgerAction) :=
  paidOrder ++ sweepRequested 10 0xd1 ++ reverted 11 0xd1 0xe1 0x7e 100 ++ latePayment
    ++ problemSweepRequested 17 0xd2

end SmallLedger

namespace LedgerSystem

open SmallLedger

/-- A sweep of problem funds that follows the sweep to the treasury. -/
theorem sparesTreasury_of_lateSweep :
    ∃ s, runSteps (step SmallLedger.keccak256 config) start lateSweepAfterTreasury = some s
      ∧ s.db.collector.collections.map (fun c => (c.toAddress, c.amountRaw, c.status))
        = [(0x7e, some 100, .confirmed), (0x9f, none, .queued)]
      ∧ s.db.SparesTreasury config := by
  have hfacts : (runSteps (step SmallLedger.keccak256 config) start lateSweepAfterTreasury).map
      (fun s => s.db.collector.collections.map (fun c => (c.toAddress, c.amountRaw, c.status)))
      = some [(0x7e, some 100, .confirmed), (0x9f, none, .queued)] := by decide +kernel
  obtain ⟨s, hs, hcollections⟩ := Option.map_eq_some_iff.mp hfacts
  exact ⟨s, hs, hcollections, sparesTreasury_of_run start_initial (by decide +kernel) hs⟩

/-- **After a failed sweep to the treasury the enqueuer sends everything to the
address for problem funds**: of the 150 the second collection resolves to, 100
were paid in time. -/
theorem sparesTreasury_fails :
    ¬ ∀ (keccak256 : List UInt8 → BitVec 256) (config : CollectionServiceConfig)
      (s s' : LedgerSystem) (as : List (Timestamp × LedgerAction)), Initial s →
      runSteps (step keccak256 config) s as = some s' → s'.db.SparesTreasury config := by
  intro hall
  have hfacts : (runSteps (step SmallLedger.keccak256 config) start lateSweepAfterFailure).map
      (fun s => (s.db.hasOverride 1, receivedTotal s.db.payment.payments 1,
        confirmedProblemTotal s.db.payment.payments 1,
        s.db.collectedWhere (fun c => decide (c.status = .confirmed)) 1))
      = some (false, 150, 50, 0) := by decide +kernel
  have horders : (runSteps (step SmallLedger.keccak256 config) start lateSweepAfterFailure).map
      (fun s => s.db.payment.orders.map (fun o => (o.id, o.status)))
      = some [(1, .paid)] := by decide +kernel
  have hcollections : (runSteps (step SmallLedger.keccak256 config) start
      lateSweepAfterFailure).map (fun s => s.db.collector.collections.map
        (fun c => (c.orderId, c.toAddress, c.amountRaw, c.status)))
      = some [(1, 0x7e, some 100, .failed), (1, 0x9f, none, .queued)] := by decide +kernel
  obtain ⟨s, hs, hfacts⟩ := Option.map_eq_some_iff.mp hfacts
  rw [hs, Option.map_some] at horders hcollections
  simp only [Prod.mk.injEq] at hfacts
  obtain ⟨hov, hreceived, hlate, hswept⟩ := hfacts
  have horder : (1, .paid) ∈ s.db.payment.orders.map (fun o => (o.id, o.status)) := by
    rw [Option.some.inj horders]
    exact List.mem_singleton_self _
  have hcollection : (1, 0x9f, none, .queued) ∈ s.db.collector.collections.map
      (fun c => (c.orderId, c.toAddress, c.amountRaw, c.status)) := by
    rw [Option.some.inj hcollections]
    exact List.mem_cons_of_mem _ (List.mem_singleton_self _)
  obtain ⟨o, ho, hrow⟩ := List.mem_map.mp horder
  obtain ⟨c, hc, hcrow⟩ := List.mem_map.mp hcollection
  simp only [Prod.mk.injEq] at hrow hcrow
  obtain ⟨hid, hstatus⟩ := hrow
  obtain ⟨hcid, hto, hnone, hqueued⟩ := hcrow
  have hresolves : resolveCollectionAmount c 150 = .ok 150 := by
    unfold resolveCollectionAmount
    rw [hnone]
    rfl
  have hle := hall SmallLedger.keccak256 config start s lateSweepAfterFailure start_initial hs o ho
    hstatus (by rw [hid, hov]) c hc (by rw [hcid, hid]) hto (by rw [hqueued]; rfl)
    (fun d => decide (d.status = .confirmed)) (fun d _ hd => decide_eq_true hd) c
    ⟨rfl, Or.inl hnone⟩ 150 150 (by rw [hid, hswept, hreceived]; rfl) hresolves
  rw [hid, hlate] at hle
  have hamount : (150 : RawAmount).toNat = 150 := rfl
  omega

end LedgerSystem
