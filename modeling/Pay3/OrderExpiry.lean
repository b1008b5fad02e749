import Pay3.MarkedSteps
import Pay3.OrdersReflectPayments

/-!
# Expired orders are closed

The status of an order is computed when one of its payments changes. An order
that nobody pays would stay pending past its expiry, so a job looks for orders
that are still open, the earliest first and a limited number at a time, and
recomputes them.

Past its expiry a recompute leaves no order open, whichever transaction makes
it: the order is paid, waits for confirmations, or has expired. So the orders
that are due by a deadline are a backlog that only shrinks once the deadline
has passed, and every tick of the job that commits takes as many off it as its
limit allows. When the backlog is gone, each of these orders has the status
its payments give it now.
-/

namespace OrderRecord

/-- The statuses the expiry job looks for. -/
def isOpen (o : OrderRecord) : Bool :=
  decide (o.status = .pending) || decide (o.status = .partial_)

/-- **The order is due**: it expired by the deadline and is still open. -/
def isDue (deadline : Timestamp) (o : OrderRecord) : Bool :=
  o.isOpen && decide (o.expiresAt ≤ deadline)

end OrderRecord

/-- The orders the expiry job selects, the earliest first. -/
def PaymentDb.dueOrders (db : PaymentDb) (databaseNow : Timestamp) : List OrderRecord :=
  (db.orders.filter (OrderRecord.isDue databaseNow)).insertionSort
    (fun a b => a.expiresAt < b.expiresAt ∨ (a.expiresAt = b.expiresAt ∧ a.id ≤ b.id))

/-- How many orders are due by a deadline. -/
def LedgerState.due (s : LedgerState) (deadline : Timestamp) : ℕ :=
  s.db.payment.orders.countP (OrderRecord.isDue deadline)

/-- The step is a tick of the expiry job that commits: it takes up to `limit` orders,
and the clock of the database has passed the deadline. -/
def isExpiryTick (deadline : Timestamp) (limit : ℕ) (s : LedgerState) (a : Timestamp × OrderOp) :
    Bool :=
  match a.2 with
  | .payment (.recomputeExpiredOpenOrders databaseNow tickLimit) =>
    decide (deadline ≤ databaseNow) && decide (limit ≤ tickLimit)
      && (runOrderOp s.db a.1 a.2).isOk
  | _ => false

/-- A creation is of an order that expires after the deadline. -/
def ExpiresLater (deadline : Timestamp) (_ : LedgerState) (a : Timestamp × OrderOp) : Prop :=
  match a.2 with
  | .createOrder command => deadline < command.paymentWindow.expiresAt
  | .payment _ => True

instance (deadline : Timestamp) (s : LedgerState) :
    ∀ a, Decidable (ExpiresLater deadline s a)
  | (_, .createOrder _) => inferInstanceAs (Decidable (_ < _))
  | (_, .payment _) => inferInstanceAs (Decidable True)

/-! ## A recompute past the expiry -/

/-- Past the expiry no order is left open. -/
theorem isOpen_recomputedOrder {payments : List PaymentRecord}
    {overrides : List OrderPaymentOverride} {now : Timestamp} {o : OrderRecord}
    (h : o.expiresAt ≤ now) : (recomputedOrder payments overrides now o).isOpen = false := by
  unfold OrderRecord.isOpen recomputedOrder recomputeStatusFromTotals
  rw [decide_eq_true h]
  dsimp only
  split_ifs <;> simp_all

/-- A status that is not open does not depend on whether the order has expired
by then. -/
theorem recomputeStatusFromTotals_of_closed {expected confirmed nonOrphaned : ℕ}
    {isExpired : Bool}
    (hpending : recomputeStatusFromTotals expected confirmed nonOrphaned isExpired ≠ .pending)
    (hnotPartial : recomputeStatusFromTotals expected confirmed nonOrphaned isExpired ≠ .partial_) :
    recomputeStatusFromTotals expected confirmed nonOrphaned true
      = recomputeStatusFromTotals expected confirmed nonOrphaned isExpired := by
  cases isExpired with
  | true => rfl
  | false =>
    unfold recomputeStatusFromTotals at *
    split_ifs at * <;> simp_all

/-- **A closed order is up to date**: what it was computed to be at some time, it
would be computed to be now. -/
theorem recomputedOrder_of_closed {payments : List PaymentRecord}
    {overrides : List OrderPaymentOverride} {t now : Timestamp} {o : OrderRecord}
    (hrow : recomputedOrder payments overrides t o = o) (hclosed : o.isOpen = false)
    (hexpired : o.expiresAt ≤ now) : recomputedOrder payments overrides now o = o := by
  have hstatus : recomputeStatusFromTotals o.expectedAmountRaw.toNat
      (confirmedOnTimeTotal payments o.id + acceptedProblemPayment overrides o.id)
      (nonOrphanedOnTimeTotal payments o.id + acceptedProblemPayment overrides o.id)
      (decide (o.expiresAt ≤ t)) = o.status := congrArg OrderRecord.status hrow
  have hopen : o.status ≠ .pending ∧ o.status ≠ .partial_ := by
    simpa [OrderRecord.isOpen] using hclosed
  have hnow := recomputeStatusFromTotals_of_closed (hstatus ▸ hopen.1) (hstatus ▸ hopen.2)
  refine Eq.trans ?_ hrow
  unfold recomputedOrder
  dsimp only
  rw [decide_eq_true hexpired, hnow]

/-! ## The backlog -/

section Backlog

variable {db db' : PaymentDb} {now deadline : Timestamp}

/-- An order that is due after a transaction past the deadline was due before. -/
theorem countP_isDue_recomputed {payments : List PaymentRecord}
    {overrides : List OrderPaymentOverride} {sel : OrderRecord → Bool} (orders : List OrderRecord)
    (hnow : deadline ≤ now) :
    (updateWhere sel (recomputedOrder payments overrides now) orders).countP
        (OrderRecord.isDue deadline)
      = orders.countP (fun o => OrderRecord.isDue deadline o && !sel o) := by
  unfold updateWhere
  rw [List.countP_map]
  refine List.countP_congr (fun o _ => ?_)
  show OrderRecord.isDue deadline (if sel o then _ else o) = true ↔ _
  by_cases hsel : sel o = true
  · rw [if_pos hsel, hsel]
    -- a due row was recomputed before its expiry
    have hnot : (recomputedOrder payments overrides now o).isDue deadline = false := by
      by_cases hexp : o.expiresAt ≤ deadline
      · unfold OrderRecord.isDue
        rw [isOpen_recomputedOrder (hexp.trans hnow), Bool.false_and]
      · unfold OrderRecord.isDue
        rw [show (recomputedOrder payments overrides now o).expiresAt = o.expiresAt from rfl,
          decide_eq_false hexp, Bool.and_false]
    rw [hnot]
    simp
  · rw [if_neg hsel, Bool.eq_false_iff.mpr hsel]
    simp

/-- No transaction on payments makes an order due once the deadline has passed. -/
theorem PaymentChange.due_le {orderIds : List Uuid} (h : PaymentChange db now orderIds db')
    (hnow : deadline ≤ now) :
    db'.orders.countP (OrderRecord.isDue deadline)
      ≤ db.orders.countP (OrderRecord.isDue deadline) := by
  rw [h.orders, countP_isDue_recomputed db.orders hnow]
  refine List.countP_mono_left (fun o _ ho => ?_)
  rw [Bool.and_eq_true] at ho
  exact ho.1

/-- What a tick that commits recomputes. -/
theorem recomputeExpiredOpenOrders_eq {databaseNow : Timestamp} {limit count : ℕ}
    (hlimit : limit ≠ 0)
    (h : recomputeExpiredOpenOrders db databaseNow now limit = .ok (count, db')) :
    db' = db.recomputed now
      (sortedSet (((db.dueOrders databaseNow).take limit).map OrderRecord.id)) := by
  unfold recomputeExpiredOpenOrders at h
  rw [if_neg hlimit] at h
  obtain ⟨db₁, hre, h⟩ := Except.bind_eq_ok.mp h
  obtain ⟨-, rfl⟩ := Prod.mk.inj (Except.pure_eq_ok.mp h)
  exact (recomputeOrdersInTx_eq_ok hre).2

/-- The orders due by a deadline, among those the job finds later. -/
theorem countP_dueOrders {databaseNow : Timestamp} (hdatabase : deadline ≤ databaseNow)
    (p : OrderRecord → Bool) :
    (db.dueOrders databaseNow).countP (fun o => decide (o.expiresAt ≤ deadline) && p o)
      = db.orders.countP (fun o => o.isDue deadline && p o) := by
  unfold PaymentDb.dueOrders
  rw [(List.perm_insertionSort _ _).countP_eq, List.countP_filter]
  refine List.countP_congr (fun o _ => ?_)
  simp only [OrderRecord.isDue, Bool.and_eq_true, decide_eq_true_eq]
  constructor
  · rintro ⟨⟨hexp, hp⟩, hopen, -⟩
    exact ⟨⟨hopen, hexp⟩, hp⟩
  · rintro ⟨⟨hopen, hexp⟩, hp⟩
    exact ⟨⟨hexp, hp⟩, hopen, hexp.trans hdatabase⟩

/-- The job finds them in the order of their expiry. -/
theorem pairwise_dueOrders (db : PaymentDb) (databaseNow : Timestamp) :
    (db.dueOrders databaseNow).Pairwise (fun a b => a.expiresAt ≤ b.expiresAt) := by
  have htotal : Std.Total (fun a b : OrderRecord => a.expiresAt < b.expiresAt
      ∨ (a.expiresAt = b.expiresAt ∧ a.id ≤ b.id)) := by
    refine ⟨fun a b => ?_⟩
    rcases lt_trichotomy a.expiresAt b.expiresAt with hlt | heq | hgt
    · exact Or.inl (Or.inl hlt)
    · rcases BitVec.le_total a.id b.id with hle | hle
      · exact Or.inl (Or.inr ⟨heq, hle⟩)
      · exact Or.inr (Or.inr ⟨heq.symm, hle⟩)
    · exact Or.inr (Or.inl hgt)
  have htrans : IsTrans OrderRecord (fun a b => a.expiresAt < b.expiresAt
      ∨ (a.expiresAt = b.expiresAt ∧ a.id ≤ b.id)) := by
    refine ⟨fun a b c hab hbc => ?_⟩
    rcases hab with hab | ⟨hab, hid⟩
    · rcases hbc with hbc | ⟨hbc, -⟩
      · exact Or.inl (hab.trans hbc)
      · exact Or.inl (hbc ▸ hab)
    · rcases hbc with hbc | ⟨hbc, hid'⟩
      · exact Or.inl (hab ▸ hbc)
      · exact Or.inr ⟨hab.trans hbc, BitVec.le_trans hid hid'⟩
  refine (List.pairwise_insertionSort _ _).imp (fun {a b} hab => ?_)
  rcases hab with hab | ⟨hab, -⟩
  · exact hab.le
  · exact hab.le

/-- If any early row stands behind the first `limit` rows, all of these are early. -/
theorem countP_drop_le {rows : List OrderRecord} (limit : ℕ)
    (hsorted : rows.Pairwise (fun a b => a.expiresAt ≤ b.expiresAt)) :
    (rows.drop limit).countP (fun o => decide (o.expiresAt ≤ deadline))
      ≤ rows.countP (fun o => decide (o.expiresAt ≤ deadline)) - limit := by
  rcases Nat.eq_zero_or_pos ((rows.drop limit).countP (fun o => decide (o.expiresAt ≤ deadline)))
    with hzero | hpos
  · rw [hzero]
    exact Nat.zero_le _
  · obtain ⟨o, ho, hexp⟩ := List.countP_pos_iff.mp hpos
    rw [← List.take_append_drop limit rows, List.pairwise_append] at hsorted
    have hearly : (rows.take limit).countP (fun o => decide (o.expiresAt ≤ deadline))
        = (rows.take limit).length :=
      List.countP_eq_length.mpr (fun r hr =>
        decide_eq_true ((hsorted.2.2 r hr o ho).trans (of_decide_eq_true hexp)))
    have hlength : (rows.take limit).length = limit := by
      have hlt := List.length_pos_of_mem ho
      rw [List.length_drop] at hlt
      rw [List.length_take]
      omega
    have hsplit := congrArg (List.countP (fun o : OrderRecord => decide (o.expiresAt ≤ deadline)))
      (List.take_append_drop limit rows)
    rw [List.countP_append, hearly, hlength] at hsplit
    omega

/-- **A tick that commits** takes as many orders off the backlog as its limit
allows. -/
theorem due_le_of_tick {databaseNow : Timestamp} {limit count : ℕ}
    (hdatabase : deadline ≤ databaseNow) (hnow : deadline ≤ now)
    (h : recomputeExpiredOpenOrders db databaseNow now limit = .ok (count, db')) :
    db'.orders.countP (OrderRecord.isDue deadline)
      ≤ db.orders.countP (OrderRecord.isDue deadline) - limit := by
  rcases Nat.eq_zero_or_pos limit with rfl | hpos
  · unfold recomputeExpiredOpenOrders at h
    rw [if_pos rfl] at h
    obtain ⟨-, rfl⟩ := Prod.mk.inj (Except.ok.inj h)
    exact le_rfl
  rw [recomputeExpiredOpenOrders_eq hpos.ne' h]
  unfold PaymentDb.recomputed
  rw [countP_isDue_recomputed db.orders hnow, ← countP_dueOrders hdatabase,
    ← List.take_append_drop limit (db.dueOrders databaseNow), List.countP_append]
  have hfirst : ((db.dueOrders databaseNow).take limit).countP (fun o =>
      decide (o.expiresAt ≤ deadline) && !decide (o.id ∈ sortedSet
        (((db.dueOrders databaseNow).take limit).map OrderRecord.id))) = 0 := by
    refine List.countP_eq_zero.mpr (fun o ho => ?_)
    rw [decide_eq_true (mem_sortedSet.mpr (List.mem_map_of_mem ho)), Bool.not_true,
      Bool.and_false]
    exact Bool.false_ne_true
  have hall : (db.dueOrders databaseNow).countP (fun o => decide (o.expiresAt ≤ deadline))
      = db.orders.countP (OrderRecord.isDue deadline) := by
    have hcount : (db.dueOrders databaseNow).countP
        (fun o => decide (o.expiresAt ≤ deadline) && true) = _ :=
      countP_dueOrders hdatabase (fun _ => true)
    simpa only [Bool.and_true] using hcount
  rw [List.take_append_drop, hfirst, Nat.zero_add, ← hall]
  refine le_trans (List.countP_mono_left (fun o _ ho => ?_))
    (countP_drop_le limit (pairwise_dueOrders db databaseNow))
  rw [Bool.and_eq_true] at ho
  exact ho.1

end Backlog

/-! ## Runs -/

namespace LedgerState

variable {s t u : LedgerState} {deadline : Timestamp} {limit : ℕ}

/-- A transaction that is accepted was made no earlier than the last, and leaves the
database of its result, or the one it found. -/
theorem orderStep_eq_some {a : Timestamp × OrderOp} (h : orderStep s a = some t) :
    s.now ≤ a.1 ∧ t.now = a.1
      ∧ (runOrderOp s.db a.1 a.2 = .ok t.db
        ∨ (runOrderOp s.db a.1 a.2).isOk = false ∧ t.db = s.db) := by
  unfold orderStep at h
  by_cases hle : s.now ≤ a.1
  · rw [if_pos hle] at h
    cases hrun : runOrderOp s.db a.1 a.2 with
    | error e =>
      rw [hrun] at h
      obtain rfl := Option.some.inj h
      exact ⟨hle, rfl, Or.inr ⟨rfl, rfl⟩⟩
    | ok db' =>
      rw [hrun] at h
      obtain rfl := Option.some.inj h
      exact ⟨hle, rfl, Or.inl rfl⟩
  · rw [if_neg hle] at h
    cases h

/-- **No step makes an order due** by a deadline that has passed. -/
theorem due_step_le {a : Timestamp × OrderOp} (hnow : deadline ≤ s.now)
    (hlater : ExpiresLater deadline s a) (h : orderStep s a = some t) :
    t.due deadline ≤ s.due deadline := by
  obtain ⟨hle, -, hrun | ⟨-, hsame⟩⟩ := orderStep_eq_some h
  · obtain ⟨now, op⟩ := a
    cases op with
    | createOrder command =>
      obtain ⟨⟨outcome, db₁⟩, hcreate, hdb⟩ := Except.map_eq_ok.mp hrun
      obtain ⟨_, _, -, -, -, rfl⟩ | ⟨_, -, -, -, rfl⟩ := createOrderIdempotent_eq_ok hcreate
      · exact (congrArg (fun db : LedgerDb => db.payment.orders.countP _) hdb).ge
      · have hnew : (newOrder command).isDue deadline = false := by
          unfold OrderRecord.isDue
          rw [show (newOrder command).expiresAt = command.paymentWindow.expiresAt from rfl,
            decide_eq_false (not_le.mpr hlater), Bool.and_false]
        unfold due
        rw [← hdb]
        show (s.db.payment.orders ++ [newOrder command]).countP _ ≤ _
        rw [List.countP_append, List.countP_singleton, hnew]
        exact le_rfl
    | payment op =>
      obtain ⟨db₁, hop, hdb⟩ := Except.map_eq_ok.mp hrun
      obtain ⟨orderIds, hc⟩ := paymentChange_of_run hop
      unfold due
      rw [← hdb]
      exact hc.due_le (hnow.trans hle)
  · unfold due
    rw [hsame]

/-- **A tick that commits drains**. -/
theorem due_tick_le {a : Timestamp × OrderOp} (hnow : deadline ≤ s.now)
    (hmark : isExpiryTick deadline limit s a = true) (h : orderStep s a = some t) :
    t.due deadline ≤ s.due deadline - limit := by
  obtain ⟨hle, -, hrun⟩ := orderStep_eq_some h
  obtain ⟨now, op⟩ := a
  unfold isExpiryTick at hmark
  split at hmark
  · rename_i databaseNow tickLimit hop
    simp only [Bool.and_eq_true, decide_eq_true_eq] at hmark
    obtain ⟨⟨hdatabase, hlimit⟩, hcommits⟩ := hmark
    obtain hrun | ⟨hfails, -⟩ := hrun
    · dsimp only at hop hle hrun
      subst hop
      obtain ⟨db₁, hrun, hdb⟩ := Except.map_eq_ok.mp hrun
      obtain ⟨⟨count, db₂⟩, htick, rfl⟩ := Except.map_eq_ok.mp hrun
      unfold due
      rw [← hdb]
      exact (due_le_of_tick hdatabase (hnow.trans hle) htick).trans
        (Nat.sub_le_sub_left hlimit _)
    · rw [hfails] at hcommits
      cases hcommits
  · cases hmark

/-- **The backlog of a deadline that has passed** is down by the limit for every
tick of the run that commits. -/
theorem due_of_run {ops : List (Timestamp × OrderOp)} (hnow : deadline ≤ s.now)
    (hlater : StepsMeet orderStep (ExpiresLater deadline) s ops)
    (hr : runSteps orderStep s ops = some u) :
    u.due deadline
      ≤ s.due deadline - limit * countSteps orderStep (isExpiryTick deadline limit) s ops :=
  backlog_of_run (I := fun s => deadline ≤ s.now) (b := fun s => s.due deadline)
    (fun s a t hs _ ht => by
      obtain ⟨hle, htime, -⟩ := orderStep_eq_some ht
      exact htime ▸ hs.trans hle)
    (fun _ _ _ hs hP ht => due_step_le hs hP ht)
    (fun _ _ _ hs _ hm ht => due_tick_le hs hm ht) hnow hlater hr

end LedgerState

/-- **Expired orders are closed and up to date.** From any state reached, once a
deadline has passed and the ticks of the expiry job that committed since could take the whole
backlog, every order that expired by the deadline is closed, and recomputing
it now changes nothing. What else ran in between makes no difference. -/
theorem expiredOrders_closed_of_run {s₀ s u : LedgerState} {before ops : List (Timestamp × OrderOp)}
    {deadline : Timestamp} {limit : ℕ} (hempty : s₀.db.NoOrders)
    (hbefore : runSteps orderStep s₀ before = some s) (hnow : deadline ≤ s.now)
    (hlater : StepsMeet orderStep (ExpiresLater deadline) s ops)
    (hr : runSteps orderStep s ops = some u)
    (hticks : s.due deadline
      ≤ limit * countSteps orderStep (isExpiryTick deadline limit) s ops) :
    ∀ o ∈ u.db.payment.orders, o.expiresAt ≤ deadline →
      o.isOpen = false ∧ recomputeOrdersInTx u.db.payment u.now [o.id] = .ok u.db.payment := by
  have hstep : ∀ s a t, ReflectInv (LedgerState.db s).payment s.now → True →
      orderStep s a = some t → ReflectInv t.db.payment t.now := fun _ _ _ h _ hs => h.step hs
  have hinv : ReflectInv s.db.payment s.now := inv_of_run
    (I := fun s => ReflectInv s.db.payment s.now) (P := fun _ _ => True) hstep
    (hempty.reflectInv s₀.now) (stepsMeet_of_forall (fun _ _ => trivial) s₀ before) hbefore
  have hinv' : ReflectInv u.db.payment u.now ∧ deadline ≤ u.now := inv_of_run
    (I := fun s => ReflectInv s.db.payment s.now ∧ deadline ≤ s.now) (P := fun _ _ => True)
    (fun s a t h _ hs => by
      obtain ⟨hle, htime, -⟩ := LedgerState.orderStep_eq_some hs
      exact ⟨h.1.step hs, htime ▸ h.2.trans hle⟩)
    ⟨hinv, hnow⟩ (stepsMeet_of_forall (fun _ _ => trivial) s ops) hr
  have hnone : u.due deadline = 0 := by
    have hdue : u.due deadline ≤ s.due deadline
        - limit * countSteps orderStep (isExpiryTick deadline limit) s ops :=
      LedgerState.due_of_run hnow hlater hr
    rw [Nat.sub_eq_zero_of_le hticks] at hdue
    exact Nat.le_zero.mp hdue
  intro o ho hexp
  have hclosed : o.isOpen = false := by
    have hdue := List.countP_eq_zero.mp hnone o ho
    unfold OrderRecord.isDue at hdue
    rw [decide_eq_true hexp, Bool.and_true] at hdue
    exact Bool.eq_false_iff.mpr hdue
  obtain ⟨t, -, hrow⟩ := hinv'.1.reflects o ho
  exact ⟨hclosed, hinv'.1.recompute_eq ho
    (recomputedOrder_of_closed hrow hclosed (hexp.trans hinv'.2))⟩

/-- An order that nobody paid, created before a tick of the job that comes after its expiry. -/
theorem expiredOrders_closed_of_createdThenPaid :
    ∃ s u, runSteps orderStep ⟨CreatedThenPaid.db, 0⟩
        [(1, .createOrder CreatedThenPaid.command), (11, .payment (.claimScanRange "w" ⟨1, 4⟩ 20))]
          = some s
      ∧ runSteps orderStep s [(12, .payment (.recomputeExpiredOpenOrders 12 10))] = some u
      ∧ ∀ o ∈ u.db.payment.orders, o.expiresAt ≤ 10 →
        o.isOpen = false ∧ recomputeOrdersInTx u.db.payment u.now [o.id] = .ok u.db.payment := by
  have hrun : ((runSteps orderStep ⟨CreatedThenPaid.db, 0⟩
      [(1, .createOrder CreatedThenPaid.command),
        (11, .payment (.claimScanRange "w" ⟨1, 4⟩ 20))]).any (fun s =>
      decide (10 ≤ s.now)
        && (runSteps orderStep s [(12, .payment (.recomputeExpiredOpenOrders 12 10))]).isSome
        && decide (s.due 10 ≤ 1 * countSteps orderStep (isExpiryTick 10 1) s
          [(12, .payment (.recomputeExpiredOpenOrders 12 10))]))) = true := by decide +kernel
  obtain ⟨s, hs, hfacts⟩ := (Option.any_eq_true _ _).mp hrun
  simp only [Bool.and_eq_true, decide_eq_true_eq] at hfacts
  obtain ⟨⟨hnow, hsome⟩, hticks⟩ := hfacts
  obtain ⟨u, hu⟩ := Option.isSome_iff_exists.mp hsome
  have hlater : StepsMeet orderStep (ExpiresLater 10) s
      [(12, .payment (.recomputeExpiredOpenOrders 12 10))] :=
    stepsMeet_of_forall_mem (fun a ha _ => by obtain rfl := List.mem_singleton.mp ha; trivial) s
  exact ⟨s, u, hs, hu, expiredOrders_closed_of_run ⟨rfl, rfl, rfl⟩ hs hnow hlater hu hticks⟩
