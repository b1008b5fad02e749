import Pay3.LedgerInvariant

/-!
# Funds between the two queries

The two queries of the enqueuer are meant to cover every confirmed payment of
an order that is expired, or paid without an operator's help: what neither of
them lists, and no active collection is sweeping, should have been swept.

For an expired order the second query sees to it by itself, for it compares
all that was confirmed with all that was swept to the address for problem
funds. For a paid one the two share the work, and the first of them only asks
whether the order has a collection at all. A treasury collection that failed,
one of too small an amount, a problem funds collection that came first, or an
on-time payment confirmed after the collection was created: each of them
leaves funds that neither query looks at again.

`KeepsTrack` excludes these four, step by step. As long as it is met, the
treasury collections of an order that have not failed cover its confirmed
on-time payments from the first collection on (`Tracked`).
-/

namespace LedgerDb

/-- **The two queries leave nothing behind**: an order that neither of them
lists and that has no active collection has had its confirmed payments swept.
A limit of at least the number of orders is none. -/
def LeavesNothing (config : CollectionServiceConfig) (db : LedgerDb) : Prop :=
  ∀ o ∈ db.payment.orders, o.chainId = config.chainId → o.tokenAddress = config.tokenAddress →
    (o.status = .expired ∨ (o.status = .paid ∧ db.hasOverride o.id = false)) →
    ∀ updatedAt limit paid problem, db.payment.orders.length ≤ limit →
      db.paidOrdersWithoutCollections updatedAt config.chainId config.tokenAddress limit
        = .ok paid →
      db.problemFundsOrdersReadyForCollection config.chainId config.tokenAddress
        config.problemFundsAddress limit = .ok problem →
      (∀ c ∈ paid, c.orderId ≠ o.id) → (∀ c ∈ problem, c.orderId ≠ o.id) →
      db.hasActiveCollection o.id = false →
      confirmedTotal db.payment.payments o.id
        ≤ db.collectedWhere (fun c => decide (c.status = .confirmed)) o.id

/-- A collection to the treasury, or to any address but that for problem funds,
that has not failed. -/
def isStandingTreasury (config : CollectionServiceConfig) (c : CollectionRecord) : Bool :=
  !decide (c.toAddress = config.problemFundsAddress) && !decide (c.status = .failed)

/-- **The treasury collections of an order cover an amount**: the amount of one
of them is still to be resolved, or they add up to it. -/
def TreasuryCovers (config : CollectionServiceConfig) (db : LedgerDb) (orderId : Uuid) (n : ℕ) :
    Prop :=
  (∃ c ∈ db.collector.collections, c.orderId = orderId
      ∧ c.toAddress ≠ config.problemFundsAddress ∧ c.status = .queued ∧ c.amountRaw = none)
    ∨ n ≤ db.collectedWhere (isStandingTreasury config) orderId

/-- **Every order that is due to the treasury is covered** from its first
collection on. -/
def Tracked (config : CollectionServiceConfig) (db : LedgerDb) : Prop :=
  ∀ o ∈ db.payment.orders, db.hasCollection o.id = true → db.hasOverride o.id = false →
    o.expectedAmountRaw.toNat ≤ confirmedOnTimeTotal db.payment.payments o.id →
    db.TreasuryCovers config o.id (confirmedOnTimeTotal db.payment.payments o.id)

end LedgerDb

/-! ## The condition -/

/-- The action marks the transaction of a collection failed. -/
def LedgerAction.fails : LedgerAction → CollectionRecord → Bool
  | .collector (.markFailed txId _), c => decide (c.outboundTxId = some txId)
  | _, _ => false

/-- The action stores a signed transaction of less than `n` for a collection. -/
def LedgerAction.resolvesBelow (n : ℕ) : LedgerAction → CollectionRecord → Bool
  | .collector (.insertSignedCollectTx collectionId _ amount), c =>
    decide (c.id = collectionId) && decide (amount.toNat < n)
  | _, _ => false

/-- The amount asked for is at least `n`, as far as it is known. -/
def CollectionAmount.covers (n : ℕ) : CollectionAmount → Bool
  | .max => true
  | .exact amount => decide (n ≤ amount.toNat)

/-- **A step that loses no funds.** -/
structure KeepsTrack (config : CollectionServiceConfig) (s : LedgerSystem)
    (a : Timestamp × LedgerAction) : Prop where
  /-- No treasury collection is marked failed. -/
  failed : ∀ c ∈ s.db.collector.collections, a.2.fails c = true →
    c.toAddress = config.problemFundsAddress
  /-- A treasury collection of everything resolves to at least what was
  confirmed on time. -/
  resolved : ∀ c ∈ s.db.collector.collections, c.amountRaw = none →
    c.toAddress ≠ config.problemFundsAddress →
    a.2.resolvesBelow (confirmedOnTimeTotal s.db.payment.payments c.orderId) c = false
  /-- The first collection of a paid order goes to the treasury, for at least
  what was confirmed on time. -/
  first : ∀ r ∈ s.request? a.2, ∀ o ∈ s.db.payment.orders, o.id = r.2.1.orderId →
    o.status = .paid → s.db.hasOverride o.id = false → s.db.hasCollection o.id = false →
    r.1 = .treasury
      ∧ r.2.1.amount.covers (confirmedOnTimeTotal s.db.payment.payments o.id) = true
  /-- No more on-time payments are confirmed for an order with a collection, if
  they pay for it. -/
  confirmed : ∀ op ∈ a.2.paymentOp?, ∀ payment ∈ (runPaymentOp s.db.payment a.1 op).toOption,
    ∀ o ∈ s.db.payment.orders, s.db.hasCollection o.id = true →
    o.expectedAmountRaw.toNat ≤ confirmedOnTimeTotal payment.payments o.id →
    confirmedOnTimeTotal payment.payments o.id
      ≤ confirmedOnTimeTotal s.db.payment.payments o.id

set_option synthInstance.maxSize 512 in
instance (config : CollectionServiceConfig) (s : LedgerSystem) (a : Timestamp × LedgerAction) :
    Decidable (KeepsTrack config s a) :=
  decidable_of_iff
    ((∀ c ∈ s.db.collector.collections, a.2.fails c = true →
        c.toAddress = config.problemFundsAddress)
      ∧ (∀ c ∈ s.db.collector.collections, c.amountRaw = none →
        c.toAddress ≠ config.problemFundsAddress →
        a.2.resolvesBelow (confirmedOnTimeTotal s.db.payment.payments c.orderId) c = false)
      ∧ (∀ r ∈ s.request? a.2, ∀ o ∈ s.db.payment.orders, o.id = r.2.1.orderId →
        o.status = .paid → s.db.hasOverride o.id = false → s.db.hasCollection o.id = false →
        r.1 = .treasury
          ∧ r.2.1.amount.covers (confirmedOnTimeTotal s.db.payment.payments o.id) = true)
      ∧ (∀ op ∈ a.2.paymentOp?, ∀ payment ∈ (runPaymentOp s.db.payment a.1 op).toOption,
        ∀ o ∈ s.db.payment.orders, s.db.hasCollection o.id = true →
        o.expectedAmountRaw.toNat ≤ confirmedOnTimeTotal payment.payments o.id →
        confirmedOnTimeTotal payment.payments o.id
          ≤ confirmedOnTimeTotal s.db.payment.payments o.id))
    ⟨fun h => ⟨h.1, h.2.1, h.2.2.1, h.2.2.2⟩, fun h => ⟨h.1, h.2, h.3, h.4⟩⟩

/-! ## What the queries leave out -/

namespace LedgerDb

variable {db : LedgerDb} {config : CollectionServiceConfig}

/-- A row that is selected is listed, when the limit does not cut it off. -/
theorem exists_candidate {β : Type} {f : OrderRecord → Except RuntimeError β} {p : OrderRecord → Bool}
    {le : OrderRecord → OrderRecord → Prop} [DecidableRel le] {limit : ℕ} {candidates : List β}
    (hlimit : db.payment.orders.length ≤ limit)
    (h : collectOk f (((db.payment.orders.filter p).insertionSort le).take limit) = .ok candidates)
    {o : OrderRecord} (ho : o ∈ db.payment.orders) (hp : p o = true) :
    ∃ c ∈ candidates, f o = .ok c := by
  have hlen : ((db.payment.orders.filter p).insertionSort le).length ≤ limit := by
    rw [List.length_insertionSort]
    exact (List.length_filter_le _ _).trans hlimit
  rw [List.take_of_length_le hlen] at h
  exact exists_of_collectOk h ((List.mem_insertionSort le).mpr (List.mem_filter.mpr ⟨ho, hp⟩))

/-- An order the first query omits is not one it selects. -/
theorem isPaidWithoutCollection_of_omitted {updatedAt : Uuid → Timestamp} {limit : ℕ}
    {paid : List PaidCollectionCandidate} {o : OrderRecord} (ho : o ∈ db.payment.orders)
    (hlimit : db.payment.orders.length ≤ limit)
    (h : db.paidOrdersWithoutCollections updatedAt config.chainId config.tokenAddress limit
      = .ok paid)
    (homit : ∀ c ∈ paid, c.orderId ≠ o.id) :
    db.isPaidWithoutCollection config.chainId config.tokenAddress o = false := by
  by_contra hsel
  unfold paidOrdersWithoutCollections at h
  obtain ⟨_, -, h⟩ := Except.bind_eq_ok.mp h
  obtain ⟨c, hc, hread⟩ := exists_candidate hlimit h ho (by simpa using hsel)
  obtain ⟨raw, -, hread⟩ := Except.bind_eq_ok.mp hread
  rw [← Except.pure_eq_ok.mp hread] at hc
  exact homit _ hc rfl

/-- An order the second query omits is not one it selects. -/
theorem isProblemFundsReady_of_omitted {limit : ℕ} {problem : List ProblemFundsCollectionCandidate}
    {o : OrderRecord} (ho : o ∈ db.payment.orders) (hlimit : db.payment.orders.length ≤ limit)
    (h : db.problemFundsOrdersReadyForCollection config.chainId config.tokenAddress
      config.problemFundsAddress limit = .ok problem)
    (homit : ∀ c ∈ problem, c.orderId ≠ o.id) :
    db.isProblemFundsReady config.chainId config.tokenAddress config.problemFundsAddress o
      = false := by
  by_contra hsel
  unfold problemFundsOrdersReadyForCollection at h
  obtain ⟨_, -, h⟩ := Except.bind_eq_ok.mp h
  obtain ⟨c, hc, hread⟩ := exists_candidate hlimit h ho (by simpa using hsel)
  obtain ⟨raw, -, hread⟩ := Except.bind_eq_ok.mp hread
  rw [← Except.pure_eq_ok.mp hread] at hc
  exact homit _ hc rfl

/-- **What the second query omits has been swept to the address for problem
funds**, when no collection is active. -/
theorem problemPaymentTotal_le {o : OrderRecord} (hchain : o.chainId = config.chainId)
    (htoken : o.tokenAddress = config.tokenAddress) (hinactive : db.hasActiveCollection o.id = false)
    (h : db.isProblemFundsReady config.chainId config.tokenAddress config.problemFundsAddress o
      = false) :
    db.problemPaymentTotal o ≤ db.confirmedProblemCollectionTotal config.chainId
      config.tokenAddress config.problemFundsAddress o.id := by
  have hproblem : db.collector.collections.any (fun c => decide (c.orderId = o.id)
      && isCollectionTo config.chainId config.tokenAddress config.problemFundsAddress c
      && c.status.isActive) = false := by
    unfold hasActiveCollection at hinactive
    rw [List.any_eq_false] at hinactive ⊢
    intro c hc hp
    simp only [Bool.and_eq_true] at hp
    exact hinactive c hc (by rw [hp.1.1, hp.2]; rfl)
  unfold isProblemFundsReady at h
  rw [decide_eq_true hchain, decide_eq_true htoken, hinactive, hproblem] at h
  simp only [Bool.true_and, Bool.not_false, Bool.and_true, Bool.and_eq_false_iff,
    decide_eq_false_iff_not, Nat.not_lt] at h
  rcases h with hnone | hle
  · -- no payment counts as problem funds, so they add up to nothing
    refine Nat.le_trans (Nat.le_of_eq ?_) (Nat.zero_le _)
    unfold problemPaymentTotal totalWhere
    rw [List.filter_eq_nil_iff.mpr (fun p hp => by
      simpa using List.any_eq_false.mp hnone p hp)]
    rfl
  · exact hle

/-- All confirmed payments of an expired order are problem funds. -/
theorem problemPaymentTotal_of_expired {o : OrderRecord} (h : o.status = .expired) :
    db.problemPaymentTotal o = confirmedTotal db.payment.payments o.id := by
  unfold problemPaymentTotal confirmedTotal
  refine congrArg (fun q => totalWhere q db.payment.payments o.id) (funext fun p => ?_)
  simp [isProblemPayment, PaymentRecord.isConfirmed, h]

/-- The late confirmed payments of a paid order are. -/
theorem problemPaymentTotal_of_paid {o : OrderRecord} (h : o.status = .paid) :
    db.problemPaymentTotal o = confirmedProblemTotal db.payment.payments o.id := by
  unfold problemPaymentTotal confirmedProblemTotal
  refine congrArg (fun q => totalWhere q db.payment.payments o.id) (funext fun p => ?_)
  unfold isProblemPayment PaymentRecord.isConfirmedProblem
  cases p.matchStatus <;> simp [h]

end LedgerDb

/-! ## What keeps an order tracked -/

namespace LedgerDb

variable {db : LedgerDb} {config : CollectionServiceConfig} {now : Timestamp}

theorem TreasuryCovers.mono {orderId : Uuid} {m n : ℕ} (h : db.TreasuryCovers config orderId n)
    (hle : m ≤ n) : db.TreasuryCovers config orderId m := by
  rcases h with hqueued | htotal
  · exact Or.inl hqueued
  · exact Or.inr (hle.trans htotal)

/-- One standing treasury collection of the amount is enough. -/
theorem TreasuryCovers.of_mem {c : CollectionRecord} (hc : c ∈ db.collector.collections)
    (hstanding : isStandingTreasury config c = true) {amount : RawAmount}
    (hamount : c.amountRaw = some amount) {n : ℕ} (hle : n ≤ amount.toNat) :
    db.TreasuryCovers config c.orderId n := by
  refine Or.inr (hle.trans (Nat.le_trans (Nat.le_of_eq ?_) (share_le_collectedWhere hc)))
  rw [CollectionRecord.share_of_pos rfl hstanding, hamount]
  rfl

/-- **A new order** has no collection. -/
theorem Tracked.withOrder (h : db.Tracked config) (hinv : LedgerInv db now)
    {command : CreateOrderCommand} (hc : db.Creates command) :
    (db.withOrder command).Tracked config := by
  intro o ho hcol hov hpaid
  rcases List.mem_append.mp ho with ho | ho
  · exact h o ho hcol hov hpaid
  · obtain rfl := List.mem_singleton.mp ho
    obtain ⟨c, hmem, hid⟩ := List.any_eq_true.mp hcol
    obtain ⟨o', ho', hof⟩ := hinv.collections c hmem
    exact absurd (hof.orderId.symm.trans (of_decide_eq_true hid)) (hc.fresh o' ho')

/-- **A transaction on payments** that confirms nothing more on time for the
orders with a collection. -/
theorem Tracked.setPayment (h : db.Tracked config) {payment : PaymentDb} {orderIds : List Uuid}
    (hc : PaymentChange db.payment now orderIds payment)
    (hconfirmed : ∀ o ∈ db.payment.orders, db.hasCollection o.id = true →
      o.expectedAmountRaw.toNat ≤ confirmedOnTimeTotal payment.payments o.id →
      confirmedOnTimeTotal payment.payments o.id
        ≤ confirmedOnTimeTotal db.payment.payments o.id) :
    (db.setPayment payment).Tracked config := by
  intro o' ho' hcol hov hpaid
  obtain ⟨o, ho, hterms⟩ := hc.exists_order ho'
  have hid : o'.id = o.id := congrArg OrderTerms.id hterms
  have hexp : o'.expectedAmountRaw = o.expectedAmountRaw :=
    congrArg OrderTerms.expectedAmountRaw hterms
  rw [hid] at hcol hov hpaid ⊢
  rw [hexp] at hpaid
  have hov' : db.hasOverride o.id = false := by
    by_contra hne
    rw [Bool.not_eq_false] at hne
    rw [hc.hasOverride hne] at hov
    cases hov
  have hle := hconfirmed o ho hcol hpaid
  exact (h o ho hcol hov' (hpaid.trans hle)).mono hle

/-- **A granted request**: the first collection of an order goes to the
treasury and covers it, and a later one takes nothing away. -/
theorem Tracked.withCollection (h : db.Tracked config) (hinv : LedgerInv db now)
    {keccak256 : List UInt8 → BitVec 256} {route : CollectionRoute}
    {input : CreateCollectionInput} {collectionId : Uuid} {command : CreateCollectionCommand}
    {granted : OrderRecord}
    (hg : Grants keccak256 config db now route input collectionId command granted)
    (hfirst : granted.status = .paid → db.hasOverride granted.id = false →
      db.hasCollection granted.id = false → route = .treasury
        ∧ input.amount.covers (confirmedOnTimeTotal db.payment.payments granted.id) = true) :
    (db.withCollection now command).Tracked config := by
  intro o ho hcol hov hpaid
  have hold : db.hasCollection o.id = true → (db.withCollection now command).TreasuryCovers config
      o.id (confirmedOnTimeTotal db.payment.payments o.id) := by
    intro hcol
    rcases h o ho hcol hov hpaid with ⟨c, hc, hqueued⟩ | htotal
    · exact Or.inl ⟨c, List.mem_append_left _ hc, hqueued⟩
    · refine Or.inr (htotal.trans ?_)
      rw [collectedWhere_withCollection]
      exact Nat.le_add_right _ _
  by_cases hcol' : db.hasCollection o.id = true
  · exact hold hcol'
  · -- the collection is the order's first, so it is the one just granted
    rw [Bool.not_eq_true] at hcol'
    obtain ⟨c, hc, hid⟩ := List.any_eq_true.mp hcol
    rcases List.mem_append.mp hc with hold | hnew
    · exact absurd hid (List.any_eq_false.mp hcol' c hold)
    · obtain rfl := List.mem_singleton.mp hnew
      have hcid : command.orderId = o.id := of_decide_eq_true hid
      have hgid : granted.id = o.id := by
        rw [← hcid, hg.command_eq]
        rfl
      obtain rfl := List.inj_on_of_nodup_map hinv.reflect.ids hg.mem ho hgid
      have hov' : db.hasOverride granted.id = false := hov
      have hstatus : granted.status = .paid := by
        rw [hinv.status_eq_paid ho, hinv.paidAmountRaw_eq ho, accepted_eq_zero hov']
        exact hpaid
      obtain ⟨rfl, hcovers⟩ := hfirst hstatus hov hcol'
      have hto : command.toAddress ≠ config.problemFundsAddress := by
        rw [hg.command_eq]
        exact config.problemFunds_ne_treasury.symm
      have hamount : command.amountRaw = input.amount.asOptionalRaw := by rw [hg.command_eq]; rfl
      cases hin : input.amount with
      | max =>
        rw [hin] at hamount
        exact Or.inl ⟨_, hc, hcid, hto, rfl, hamount⟩
      | exact amount =>
        rw [hin] at hamount hcovers
        have hcov : (db.withCollection now command).TreasuryCovers config command.orderId
            (confirmedOnTimeTotal db.payment.payments granted.id) := by
          refine TreasuryCovers.of_mem hc ?_ hamount (of_decide_eq_true hcovers)
          simp [isStandingTreasury, CollectorDb.newCollection, hto]
        rw [hcid] at hcov
        exact hcov

/-- **A call of the collector** that fails no treasury collection and resolves
none to too little. -/
theorem Tracked.setCollector (h : db.Tracked config) (hinv : LedgerInv db now)
    {call : CollectionCall} {collector : CollectorDb}
    (hmoved : MovedBy call db.collector collector)
    (hfailed : ∀ txId error, call = .markFailed txId error → ∀ c ∈ db.collector.collections,
      c.outboundTxId = some txId → c.toAddress = config.problemFundsAddress)
    (hresolved : ∀ id tx amount, call = .insertSignedCollectTx id tx amount →
      ∀ c ∈ db.collector.collections, c.id = id → c.amountRaw = none →
      c.toAddress ≠ config.problemFundsAddress →
      confirmedOnTimeTotal db.payment.payments c.orderId ≤ amount.toNat) :
    (db.setCollector collector).Tracked config := by
  obtain ⟨f, hf, hmoves⟩ := hmoved.moves
  have horderId : ∀ c ∈ db.collector.collections, (f c).orderId = c.orderId := fun c hc =>
    congrArg CollectionTerms.orderId (hmoves c hc).terms
  have hto : ∀ c ∈ db.collector.collections, (f c).toAddress = c.toAddress := fun c hc =>
    congrArg CollectionTerms.toAddress (hmoves c hc).terms
  -- a treasury collection that stands goes on standing
  have hstanding : ∀ c ∈ db.collector.collections, ∀ c', c.Moves call c' →
      isStandingTreasury config c = true → isStandingTreasury config c' = true := by
    intro c hc c' hmove hst
    simp only [isStandingTreasury, Bool.and_eq_true, Bool.not_eq_eq_eq_not, Bool.not_true,
      decide_eq_false_iff_not] at hst ⊢
    have hto' : c'.toAddress = c.toAddress := congrArg CollectionTerms.toAddress hmove.terms
    rw [hto']
    refine ⟨hst.1, fun hfail => ?_⟩
    rcases hmove.failed hfail with hold | ⟨txId, error, hcall, htx⟩
    · exact hst.2 hold
    · exact hst.1 (hfailed txId error hcall c hc htx)
  intro o ho hcol hov hpaid
  have hcol' : db.hasCollection o.id = true := by
    obtain ⟨c', hc', hid⟩ := List.any_eq_true.mp hcol
    obtain ⟨c, hc, hmove⟩ := hmoved.exists_of_mem hc'
    refine List.any_eq_true.mpr ⟨c, hc, ?_⟩
    have horder : c'.orderId = c.orderId := congrArg CollectionTerms.orderId hmove.terms
    rwa [← horder]
  rcases h o ho hcol' hov hpaid with ⟨c, hc, hid, hnot, hqueued, hnone⟩ | htotal
  · have hmem : f c ∈ (db.setCollector collector).collector.collections := by
      show f c ∈ collector.collections
      rw [hf]
      exact List.mem_map_of_mem hc
    by_cases hsome : (f c).amountRaw = none
    · -- without an amount it has not been signed for
      have hstatus : (f c).status = .queued := by
        rcases (hmoves c hc).unsigned (hinv.coherence.coherent.queued c hc hqueued) with hs | hs
        · rw [hs, hqueued]
        · rw [hsome] at hs
          cases hs
      exact Or.inl ⟨f c, hmem, (horderId c hc).trans hid, hto c hc ▸ hnot, hstatus, hsome⟩
    · rcases (hmoves c hc).amount with hsame | ⟨tx, amount, hcall, hamount⟩
      · exact absurd (hsame.trans hnone) hsome
      · rw [hnone, Option.none_or] at hamount
        have hle := hresolved c.id tx amount hcall c hc rfl hnone hnot
        rw [hid] at hle
        have hcovers : (db.setCollector collector).TreasuryCovers config (f c).orderId
            (confirmedOnTimeTotal db.payment.payments o.id) := by
          refine TreasuryCovers.of_mem hmem (hstanding c hc _ (hmoves c hc) ?_) hamount hle
          simp [isStandingTreasury, hnot, hqueued]
        rw [horderId c hc, hid] at hcovers
        exact hcovers
  · exact Or.inr (htotal.trans (collectedWhere_le_of_moved hmoved hstanding o.id))

end LedgerDb

/-! ## Tracked orders leave nothing behind -/

/-- A collection that is neither active nor failed is confirmed. -/
theorem CollectorDb.CoherenceInv.eq_confirmed {db : CollectorDb} (h : db.CoherenceInv)
    {c : CollectionRecord} (hc : c ∈ db.collections) (hactive : c.status.isActive = false)
    (hfailed : c.status ≠ .failed) : c.status = .confirmed := by
  rcases (h.linked c hc).active_or_terminal with hidx | hterm
  · cases hs : c.status with
    | confirmed => rfl
    | failed => exact absurd hs hfailed
    | queued => rw [hs] at hactive; cases hactive
    | transferring => rw [hs] at hactive; cases hactive
    | confirming => rw [hs] at hactive; cases hactive
    | replacing => rw [hs] at hactive; cases hactive
    | dropped => rw [hs] at hidx; cases hidx
    | replaced => rw [hs] at hidx; cases hidx
  · cases hs : c.status with
    | confirmed => rfl
    | failed => exact absurd hs hfailed
    | queued => rw [hs] at hterm; cases hterm
    | transferring => rw [hs] at hterm; cases hterm
    | confirming => rw [hs] at hterm; cases hterm
    | replacing => rw [hs] at hterm; cases hterm
    | dropped => rw [hs] at hterm; cases hterm
    | replaced => rw [hs] at hterm; cases hterm

namespace LedgerDb

variable {db : LedgerDb} {config : CollectionServiceConfig} {now : Timestamp}

/-- An order the first query omits, though it is paid, has a collection. -/
theorem hasCollection_of_omitted (hinv : LedgerInv db now) {o : OrderRecord}
    (ho : o ∈ db.payment.orders) (hchain : o.chainId = config.chainId)
    (htoken : o.tokenAddress = config.tokenAddress) (hpaid : o.status = .paid)
    (hov : db.hasOverride o.id = false)
    (h : db.isPaidWithoutCollection config.chainId config.tokenAddress o = false) :
    db.hasCollection o.id = true := by
  have hpos : 0 < o.paidAmountRaw :=
    lt_of_lt_of_le (hinv.expected o ho) ((hinv.status_eq_paid ho).mp hpaid)
  unfold isPaidWithoutCollection at h
  rw [decide_eq_true hchain, decide_eq_true htoken, decide_eq_true hpaid, decide_eq_true hpos,
    hov] at h
  simpa using h

/-- **What the treasury collections cover has been swept**, when no collection
is active. -/
theorem TreasuryCovers.le_confirmed (hinv : LedgerInv db now) {orderId : Uuid} {n : ℕ}
    (hinactive : db.hasActiveCollection orderId = false)
    (h : db.TreasuryCovers config orderId n) :
    n ≤ db.collectedWhere (fun c => !decide (c.toAddress = config.problemFundsAddress)
      && decide (c.status = .confirmed)) orderId := by
  have hnone : ∀ c ∈ db.collector.collections, c.orderId = orderId → c.status.isActive = false := by
    intro c hc hid
    have hnot := List.any_eq_false.mp hinactive c hc
    simpa [hid] using hnot
  rcases h with ⟨c, hc, hid, -, hqueued, -⟩ | htotal
  · have hactive := hnone c hc hid
    rw [hqueued] at hactive
    cases hactive
  · refine htotal.trans (collectedWhere_mono (fun c hc hid hst => ?_))
    simp only [isStandingTreasury, Bool.and_eq_true, Bool.not_eq_eq_eq_not, Bool.not_true,
      decide_eq_false_iff_not] at hst
    have hconf := hinv.coherence.eq_confirmed hc (hnone c hc hid) hst.2
    simp [hst.1, hconf]

/-- **Tracked orders leave nothing behind.** -/
theorem Tracked.leavesNothing (h : db.Tracked config) (hinv : LedgerInv db now) :
    db.LeavesNothing config := by
  intro o ho hchain htoken hstatus updatedAt limit paid problem hlimit hpaid hproblem homit homit'
    hinactive
  have hready := isProblemFundsReady_of_omitted ho hlimit hproblem homit'
  have hswept := problemPaymentTotal_le hchain htoken hinactive hready
  rcases hstatus with hexpired | ⟨hstatus, hov⟩
  · calc confirmedTotal db.payment.payments o.id
        = db.problemPaymentTotal o := (problemPaymentTotal_of_expired hexpired).symm
      _ ≤ db.confirmedProblemCollectionTotal config.chainId config.tokenAddress
          config.problemFundsAddress o.id := hswept
      _ ≤ db.collectedWhere (fun c => decide (c.status = .confirmed)) o.id :=
          collectedWhere_mono (fun c _ _ hq => by
            rw [Bool.and_eq_true] at hq
            exact hq.2)
  · have hcol := hasCollection_of_omitted hinv ho hchain htoken hstatus hov
      (isPaidWithoutCollection_of_omitted ho hlimit hpaid homit)
    have hexp : o.expectedAmountRaw.toNat ≤ confirmedOnTimeTotal db.payment.payments o.id := by
      have hle := (hinv.status_eq_paid ho).mp hstatus
      rwa [hinv.paidAmountRaw_eq ho, accepted_eq_zero hov, Nat.add_zero] at hle
    have htreasury := (h o ho hcol hov hexp).le_confirmed hinv hinactive
    rw [problemPaymentTotal_of_paid hstatus] at hswept
    rw [confirmedTotal_eq]
    -- the two kinds of collections differ in their destination
    refine (Nat.add_le_add htreasury hswept).trans (collectedWhere_add_le (fun c hq => ?_)
      (fun c hq => ?_) (fun c hq hq' => ?_))
    · rw [Bool.and_eq_true] at hq
      exact hq.2
    · rw [Bool.and_eq_true] at hq
      exact hq.2
    · simp only [isCollectionTo, Bool.and_eq_true, Bool.not_eq_eq_eq_not, Bool.not_true,
        decide_eq_false_iff_not, decide_eq_true_eq] at hq hq'
      exact hq.1 hq'.1.2

end LedgerDb

namespace LedgerSystem

variable {keccak256 : List UInt8 → BitVec 256} {config : CollectionServiceConfig}
  {s s' : LedgerSystem} {a : Timestamp × LedgerAction}

/-- **One step** that loses no funds keeps every order tracked. -/
theorem tracked_of_step (hinv : LedgerInv s.db s.now) (h : s.db.Tracked config)
    (hkeeps : KeepsTrack config s a) (hs : step keccak256 config s a = some s') :
    s'.db.Tracked config := by
  obtain ⟨hle, hnow, hchange⟩ := step_eq_some hs
  have hinv := hinv.mono hle
  generalize s'.db = db' at hchange ⊢
  rw [hnow] at hchange hinv
  cases hchange with
  | unchanged => exact h
  | createOrder command ha hc => exact h.withOrder hinv hc
  | payment op payment ha hop =>
    obtain ⟨orderIds, hc⟩ := paymentChange_of_run hop
    refine h.setPayment hc (hkeeps.confirmed op ?_ payment ?_)
    · rw [ha]
      rfl
    · rw [hop]
      rfl
  | collection route input collectionId command o ha hg =>
    obtain ⟨r, hr, hparts⟩ := Option.map_eq_some_iff.mp ha
    obtain ⟨rfl, hrest⟩ := Prod.mk.inj hparts
    obtain ⟨rfl, -⟩ := Prod.mk.inj hrest
    exact h.withCollection hinv hg (hkeeps.first r hr o hg.mem hg.id)
  | collector call collector ha hcall hx =>
    refine h.setCollector hinv (movedBy_of_runCall hinv.coherence hcall hx) ?_ ?_
    · rintro txId error rfl c hc htx
      refine hkeeps.failed c hc ?_
      rw [ha]
      exact decide_eq_true htx
    · rintro id tx amount rfl c hc hid hnone hto
      have hnot := hkeeps.resolved c hc hnone hto
      rw [ha] at hnot
      simpa [LedgerAction.resolvesBelow, hid] using hnot

theorem Initial.tracked (h : Initial s) : s.db.Tracked config := by
  intro o ho
  rw [h.noOrders.orders] at ho
  exact absurd ho List.not_mem_nil

/-- **Nothing is left behind in any state of a run that keeps track** of the
funds at every step. -/
theorem leavesNothing_of_run {as : List (Timestamp × LedgerAction)} (hinit : Initial s)
    (hkeeps : StepsMeet (step keccak256 config) (KeepsTrack config) s as)
    (hr : runSteps (step keccak256 config) s as = some s') : s'.db.LeavesNothing config := by
  have hboth : LedgerInv s'.db s'.now ∧ s'.db.Tracked config :=
    inv_of_run (I := fun s => LedgerInv s.db s.now ∧ s.db.Tracked config) (P := KeepsTrack config)
      (fun _ _ _ h hk hs => ⟨ledgerInv_of_step h.1 hs, tracked_of_step h.1 h.2 hk hs⟩)
      ⟨hinit.ledgerInv, hinit.tracked⟩ hkeeps hr
  exact hboth.2.leavesNothing hboth.1

end LedgerSystem

namespace SmallLedger

/-- The order is swept to the treasury, and the late payment to the address for
problem funds. -/
def sweptTwice : List (Timestamp × LedgerAction) :=
  paidOrder ++ sweepRequested 10 0xd1 ++ swept 11 0xd1 0xe1 0x7e 100 ++ latePayment
    ++ problemSweepRequested 17 0xd2 ++ swept 18 0xd2 0xe2 0x9f 50

/-- The sweep to the treasury reverts. -/
def sweepReverted : List (Timestamp × LedgerAction) :=
  paidOrder ++ sweepRequested 10 0xd1 ++ reverted 11 0xd1 0xe1 0x7e 100

end SmallLedger

namespace LedgerSystem

open SmallLedger

/-- A run of the enqueuer that sweeps everything. -/
theorem leavesNothing_of_sweptTwice :
    ∃ s, runSteps (step SmallLedger.keccak256 config) start sweptTwice = some s
      ∧ s.db.collector.collections.map (fun c => (c.toAddress, c.amountRaw, c.status))
        = [(0x7e, some 100, .confirmed), (0x9f, some 50, .confirmed)]
      ∧ s.db.LeavesNothing config := by
  have hfacts : (runSteps (step SmallLedger.keccak256 config) start sweptTwice).map
      (fun s => s.db.collector.collections.map (fun c => (c.toAddress, c.amountRaw, c.status)))
      = some [(0x7e, some 100, .confirmed), (0x9f, some 50, .confirmed)] := by decide +kernel
  obtain ⟨s, hs, hcollections⟩ := Option.map_eq_some_iff.mp hfacts
  exact ⟨s, hs, hcollections, leavesNothing_of_run start_initial (by decide +kernel) hs⟩

/-- **A treasury collection that fails is not tried again**: its order keeps the
100 it was paid, and neither query lists it. -/
theorem leavesNothing_fails :
    ¬ ∀ (keccak256 : List UInt8 → BitVec 256) (config : CollectionServiceConfig)
      (s s' : LedgerSystem) (as : List (Timestamp × LedgerAction)), Initial s →
      runSteps (step keccak256 config) s as = some s' → s'.db.LeavesNothing config := by
  intro hall
  have hfacts : (runSteps (step SmallLedger.keccak256 config) start sweepReverted).map
      (fun s => (s.db.hasOverride 1, s.db.hasActiveCollection 1,
        confirmedTotal s.db.payment.payments 1,
        s.db.collectedWhere (fun c => decide (c.status = .confirmed)) 1))
      = some (false, false, 100, 0) := by decide +kernel
  have horders : (runSteps (step SmallLedger.keccak256 config) start sweepReverted).map
      (fun s => s.db.payment.orders.map (fun o => (o.id, o.chainId, o.tokenAddress, o.status)))
      = some [(1, 1, 4, .paid)] := by decide +kernel
  have hqueries : (runSteps (step SmallLedger.keccak256 config) start sweepReverted).map
      (fun s => ((s.db.paidOrdersWithoutCollections (fun _ => 0) 1 4 10).toOption,
        (s.db.problemFundsOrdersReadyForCollection 1 4 0x9f 10).toOption))
      = some (some [], some []) := by decide +kernel
  obtain ⟨s, hs, hfacts⟩ := Option.map_eq_some_iff.mp hfacts
  rw [hs, Option.map_some] at horders hqueries
  have horders := Option.some.inj horders
  obtain ⟨hpaid, hproblem⟩ := Prod.mk.inj (Option.some.inj hqueries)
  simp only [Prod.mk.injEq] at hfacts
  obtain ⟨hov, hactive, htotal, hswept⟩ := hfacts
  have hrow : (1, 1, 4, .paid)
      ∈ s.db.payment.orders.map (fun o => (o.id, o.chainId, o.tokenAddress, o.status)) := by
    rw [horders]
    exact List.mem_singleton_self _
  obtain ⟨o, ho, hcols⟩ := List.mem_map.mp hrow
  simp only [Prod.mk.injEq] at hcols
  obtain ⟨hid, hchain, htoken, hstatus⟩ := hcols
  have hone : s.db.payment.orders.length = 1 := by
    have hlen := congrArg List.length horders
    rwa [List.length_map] at hlen
  have hle := hall SmallLedger.keccak256 config start s sweepReverted start_initial hs o ho hchain
    htoken (Or.inr ⟨hstatus, hid ▸ hov⟩) (fun _ => 0) 10 [] [] (by rw [hone]; decide)
    (Except.toOption_eq_some.mp hpaid) (Except.toOption_eq_some.mp hproblem)
    (fun c hc => absurd hc List.not_mem_nil) (fun c hc => absurd hc List.not_mem_nil) (hid ▸ hactive)
  rw [hid, htotal, hswept] at hle
  exact absurd hle (by decide)

end LedgerSystem
