import Pay3.CollectionReplay
import Pay3.NothingLeftBehind

/-!
# Problem funds that are enqueued

The pass over the problem funds lists the orders with more confirmed problem payments
than confirmed collections of them, and no active collection. For each it asks for a
collection and counts the order as enqueued when the answer is one.

The request is made under a key of the order and the total of its problem payments.
A collection that has failed leaves the total as it was, so the order is listed again,
the request has the same key, and the answer is the collection that failed: the order
is counted as enqueued in every pass, and nothing is queued for it.
-/

namespace LedgerDb

/-- Nothing is stored under the key the enqueuer uses for the order. -/
def KeyIsFree (db : LedgerDb) (c : ProblemFundsCollectionCandidate) : Prop :=
  ∀ o ∈ db.payment.orders, o.id = c.orderId →
    db.collector.keyed? o.ownerSub (trimText c.input.idempotencyKey) = none

theorem hasActiveCollection_eq_true {db : LedgerDb} {orderId : Uuid} :
    db.hasActiveCollection orderId = true
      ↔ ∃ c ∈ db.collector.collections, c.orderId = orderId ∧ c.status.isActive = true := by
  unfold hasActiveCollection
  simp only [List.any_eq_true, Bool.and_eq_true, decide_eq_true_eq]

end LedgerDb

namespace LedgerInv

variable {db : LedgerDb} {now : Timestamp}

/-- The collections of an order's child account are those of the order. -/
theorem orderId_eq (h : LedgerInv db now) {c : CollectionRecord} {o : OrderRecord}
    (hc : c ∈ db.collector.collections) (ho : o ∈ db.payment.orders)
    (hchild : c.childAccountId = o.childAccountId) : c.orderId = o.id := by
  obtain ⟨o', ho', hof⟩ := h.collections c hc
  rw [hof.orderId, h.order_eq ho' ho (hof.childAccountId.symm.trans hchild)]

end LedgerInv

namespace LedgerSystem

variable {keccak256 : List UInt8 → BitVec 256} {config : CollectionServiceConfig}

section Call

variable {db db' : LedgerDb} {now now' : Timestamp} {c : ProblemFundsCollectionCandidate}
  {collectionId : Uuid} {outcome : CreateCollectionOutcome} {d : CollectionRecord}

/-- **What a request of the problem funds pass leaves**: the collection of its key, in the
database as it was; an active collection of the order; or a new one. -/
theorem problemRequest_cases (hinv : LedgerInv db now)
    (h : createCollectionForRoute keccak256 config db now' .problemFunds c.input collectionId
      = .ok (db', outcome, d)) :
    (∃ o ∈ db.payment.orders, o.id = c.orderId
        ∧ db.collector.keyed? o.ownerSub (trimText c.input.idempotencyKey) = some d ∧ db' = db)
      ∨ (db.KeyIsFree c ∧ d.status.isActive = true ∧ d.orderId = c.orderId
        ∧ d ∈ db'.collector.collections) := by
  obtain ⟨o, collector, -, -, hview, -, -, -, hcreate, rfl, -⟩ :=
    createCollectionForRoute_eq_ok.mp h
  obtain ⟨ho, hid, -, -⟩ := getOrderView_eq_ok hview
  have hfree : db.collector.keyed? o.ownerSub (trimText c.input.idempotencyKey) = none →
      db.KeyIsFree c := by
    intro hnone o' ho' hid'
    rw [List.inj_on_of_nodup_map hinv.reflect.ids ho' ho (hid'.trans hid.symm)]
    exact hnone
  obtain ⟨hkeyed, -, rfl⟩ | ⟨hnone, hactive, rfl⟩ | ⟨hnone, -, -, -, rfl, rfl⟩ :=
    CollectorDb.createCollectionIdempotent_eq_ok hcreate
  · exact Or.inl ⟨o, ho, hid, hkeyed, db.setCollector_collector⟩
  · obtain ⟨hmem, hsel⟩ := List.mem_filter.mp (mem_of_firstBy hactive)
    simp only [Bool.and_eq_true, decide_eq_true_eq] at hsel
    exact Or.inr ⟨hfree hnone, hsel.2, (hinv.orderId_eq hmem ho hsel.1).trans hid, hmem⟩
  · exact Or.inr ⟨hfree hnone, rfl, hid, List.mem_append_right _ (List.mem_singleton_self _)⟩

/-- **An order that is counted is queued** exactly if it was, or its key is free. -/
theorem hasActive_after_iff (hinv : LedgerInv db now)
    (h : createCollectionForRoute keccak256 config db now' .problemFunds c.input collectionId
      = .ok (db', outcome, d)) :
    db'.hasActiveCollection c.orderId = true
      ↔ db.hasActiveCollection c.orderId = true ∨ db.KeyIsFree c := by
  obtain ⟨o, ho, hid, hkeyed, rfl⟩ | ⟨hfree, hactive, horder, hmem⟩ := problemRequest_cases hinv h
  · refine (or_iff_left (fun hfree => ?_)).symm
    rw [hfree o ho hid] at hkeyed
    cases hkeyed
  · refine iff_of_true ?_ (Or.inr hfree)
    exact LedgerDb.hasActiveCollection_eq_true.mpr ⟨d, hmem, horder, hactive⟩

end Call

/-- **When an enqueued order is queued.** In every reachable state, a candidate of the problem
funds pass whose request returns a collection has an active collection afterwards if and only
if it had one before or nothing was stored under its key; otherwise the answer is what was
stored, no active collection of the order, and the database stays as it was. -/
theorem enqueued_is_queued_iff {s₀ s : LedgerSystem} {run : List (Timestamp × LedgerAction)}
    (h₀ : Initial s₀) (hs : runSteps (step keccak256 config) s₀ run = some s)
    {c : ProblemFundsCollectionCandidate} {now : Timestamp} {collectionId : Uuid}
    {db' : LedgerDb} {outcome : CreateCollectionOutcome} {d : CollectionRecord}
    (hcall : createCollectionForRoute keccak256 config s.db now .problemFunds c.input collectionId
      = .ok (db', outcome, d)) :
    (db'.hasActiveCollection c.orderId = true
        ↔ s.db.hasActiveCollection c.orderId = true ∨ s.db.KeyIsFree c)
      ∧ (s.db.hasActiveCollection c.orderId = false → ¬ s.db.KeyIsFree c →
        db' = s.db ∧ d ∈ s.db.collector.collections
          ∧ (d.orderId = c.orderId → d.status.isActive = false)) := by
  have hinv : LedgerInv s.db s.now := ledgerInv_of_run h₀.ledgerInv hs
  refine ⟨hasActive_after_iff hinv hcall, fun hnone hkey => ?_⟩
  obtain ⟨o, ho, hid, hkeyed, hdb⟩ | ⟨hfree, -⟩ := problemRequest_cases hinv hcall
  · obtain ⟨hmem, -, -⟩ := CollectorDb.keyed?_eq_some hkeyed
    refine ⟨hdb, hmem, fun horder => Bool.eq_false_iff.mpr (fun hactive => ?_)⟩
    have hsome : s.db.hasActiveCollection c.orderId = true :=
      LedgerDb.hasActiveCollection_eq_true.mpr ⟨d, hmem, horder, hactive⟩
    rw [hnone] at hsome
    cases hsome
  · exact absurd hfree hkey

end LedgerSystem

namespace SmallLedger

/-- A pass of the enqueuer up to the request for the problem funds. -/
def problemListed (now : Timestamp) : List (Timestamp × LedgerAction) :=
  [(now, .startPaidPass 0 10 (fun _ => 0)), (now, .startProblemPass 0)]

/-- The order is swept to the treasury, and its late payment is listed. -/
def lateListed : List (Timestamp × LedgerAction) :=
  paidOrder ++ sweepRequested 10 0xd1 ++ swept 11 0xd1 0xe1 0x7e 100 ++ latePayment
    ++ problemListed 17

/-- The sweep of the late payment reverts, and the payment is listed again. -/
def lateListedAgain : List (Timestamp × LedgerAction) :=
  lateListed ++ (17, .enqueueProblem 0 0xd2) :: reverted 18 0xd2 0xe2 0x9f 50 ++ problemListed 19

/-- The late payment of the order, as it is listed. -/
def lateCandidate : ProblemFundsCollectionCandidate := ⟨1, 50⟩

end SmallLedger

namespace LedgerSystem

open SmallLedger

/-- The first request for a late payment queues a collection. -/
theorem enqueued_is_queued_first :
    ∃ s r, runSteps (step SmallLedger.keccak256 config) start lateListed = some s
      ∧ s.enqueuers 0 = .problem [lateCandidate]
      ∧ createCollectionForRoute SmallLedger.keccak256 config s.db 17 .problemFunds
        lateCandidate.input 0xd2 = .ok r
      ∧ r.1.hasActiveCollection 1 = true := by
  have hfacts : (runSteps (step SmallLedger.keccak256 config) start lateListed).map
      (fun s => (s.enqueuers 0, (createCollectionForRoute SmallLedger.keccak256 config s.db 17
        .problemFunds lateCandidate.input 0xd2).toOption.isSome,
        s.db.payment.orders.all (fun o => (s.db.collector.keyed? o.ownerSub
          (trimText lateCandidate.input.idempotencyKey)).isNone)))
      = some (.problem [lateCandidate], true, true) := by decide +kernel
  obtain ⟨s, hs, hfacts⟩ := Option.map_eq_some_iff.mp hfacts
  simp only [Prod.mk.injEq] at hfacts
  obtain ⟨hpc, hcall, hfree⟩ := hfacts
  obtain ⟨r, hr⟩ := Option.isSome_iff_exists.mp hcall
  have hr := Except.toOption_eq_some.mp hr
  refine ⟨s, r, hs, hpc, hr, ?_⟩
  refine (enqueued_is_queued_iff start_initial hs hr).1.mpr (Or.inr (fun o ho _ => ?_))
  exact Option.isNone_iff_eq_none.mp (List.all_eq_true.mp hfree o ho)

/-- **A collection that failed is the answer from then on**: the order is listed again and
counted as enqueued, and it has no active collection. -/
theorem enqueued_and_not_queued :
    ¬ ∀ (keccak256 : List UInt8 → BitVec 256) (config : CollectionServiceConfig)
      (s₀ s : LedgerSystem) (run : List (Timestamp × LedgerAction)) (i : ℕ)
      (c : ProblemFundsCollectionCandidate) (rest : List ProblemFundsCollectionCandidate)
      (now : Timestamp) (collectionId : Uuid)
      (r : LedgerDb × CreateCollectionOutcome × CollectionRecord), Initial s₀ →
      runSteps (step keccak256 config) s₀ run = some s →
      s.enqueuers i = .problem (c :: rest) → s.now ≤ now →
      createCollectionForRoute keccak256 config s.db now .problemFunds c.input collectionId
        = .ok r → r.1.hasActiveCollection c.orderId = true := by
  intro hall
  have hfacts : (runSteps (step SmallLedger.keccak256 config) start lateListedAgain).map
      (fun s => (s.enqueuers 0, decide (s.now ≤ 19),
        (createCollectionForRoute SmallLedger.keccak256 config s.db 19
        .problemFunds lateCandidate.input 0xd3).toOption.map
          (fun r => (r.1.hasActiveCollection 1, r.2.2.id, r.2.2.status))))
      = some (.problem [lateCandidate], true, some (false, 0xd2, .failed)) := by
    decide +kernel
  obtain ⟨s, hs, hfacts⟩ := Option.map_eq_some_iff.mp hfacts
  simp only [Prod.mk.injEq] at hfacts
  obtain ⟨hpc, hnow, hcall⟩ := hfacts
  obtain ⟨r, hr, hr'⟩ := Option.map_eq_some_iff.mp hcall
  have hactive := hall SmallLedger.keccak256 config start s lateListedAgain 0 lateCandidate [] 19
    0xd3 r start_initial hs hpc (of_decide_eq_true hnow) (Except.toOption_eq_some.mp hr)
  rw [show lateCandidate.orderId = 1 from rfl, (Prod.mk.inj hr').1] at hactive
  cases hactive

end LedgerSystem
