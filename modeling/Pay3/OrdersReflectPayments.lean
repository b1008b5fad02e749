import Pay3.OrderRepository
import Pay3.PaidMeansPaid

/-!
# Orders reflect their payments

An order stores what it was paid and the status that follows from it. Both are
copies: the payments and the override of the order determine them, together
with the time at which they were last computed. Each transaction on payments
names the orders to recompute by itself, so the copies are good only if none
of them forgets an order.

`PaymentChange` says what such a transaction amounts to, whichever it is: some
orders are recomputed over the new tables, and no other order sees a change of
its totals or of its override. The result follows from that alone, with the
foreign keys of payments and overrides for the orders that are created later.
-/

/-- **What a transaction on payments does**: it recomputes the orders named,
and the totals and overrides of all others stay as they are. -/
structure PaymentChange (db : PaymentDb) (now : Timestamp) (orderIds : List Uuid)
    (db' : PaymentDb) : Prop where
  orders : db'.orders = updateWhere (fun o => decide (o.id ∈ orderIds))
    (recomputedOrder db'.payments db'.overrides now) db.orders
  fits : db'.RecomputeFits now orderIds
  totals : ∀ id, id ∉ orderIds → ∀ q, totalWhere q db'.payments id = totalWhere q db.payments id
  accepted : ∀ id, id ∉ orderIds →
    acceptedProblemPayment db'.overrides id = acceptedProblemPayment db.overrides id
  payments : ∀ p ∈ db'.payments,
    p.orderId ∈ db.payments.map PaymentRecord.orderId ∨ p.orderId ∈ db.orders.map OrderRecord.id
  overrides : ∀ ov ∈ db'.overrides, ov ∈ db.overrides ∨ ov.orderId ∈ db.orders.map OrderRecord.id
  overridden : ∀ ov ∈ db.overrides,
    ov.orderId ∈ db'.overrides.map OrderPaymentOverride.orderId
  windows : db'.windows = db.windows

namespace PaymentChange

variable {db db₁ db' : PaymentDb} {now : Timestamp} {orderIds : List Uuid}

/-- Nothing happened. -/
theorem refl (db : PaymentDb) (now : Timestamp) : PaymentChange db now [] db where
  orders := (updateWhere_of_forall_false (fun o _ => by simp)).symm
  fits := fun _ _ hid => absurd hid List.not_mem_nil
  totals := fun _ _ _ => rfl
  accepted := fun _ _ => rfl
  payments := fun _ hp => Or.inl (List.mem_map_of_mem hp)
  overrides := fun _ hov => Or.inl hov
  overridden := fun _ hov => List.mem_map_of_mem hov
  windows := rfl

/-- A recompute over tables in which only the orders it names have changed. -/
theorem of_recomputed (db : PaymentDb) (horders : db₁.orders = db.orders) (hfits : db₁.RecomputeFits now orderIds)
    (htotals : ∀ id, id ∉ orderIds → ∀ q,
      totalWhere q db₁.payments id = totalWhere q db.payments id)
    (haccepted : ∀ id, id ∉ orderIds →
      acceptedProblemPayment db₁.overrides id = acceptedProblemPayment db.overrides id)
    (hpayments : ∀ p ∈ db₁.payments, p.orderId ∈ db.payments.map PaymentRecord.orderId
      ∨ p.orderId ∈ db.orders.map OrderRecord.id)
    (hoverrides : ∀ ov ∈ db₁.overrides, ov ∈ db.overrides
      ∨ ov.orderId ∈ db.orders.map OrderRecord.id)
    (hoverridden : ∀ ov ∈ db.overrides,
      ov.orderId ∈ db₁.overrides.map OrderPaymentOverride.orderId)
    (hwindows : db₁.windows = db.windows) :
    PaymentChange db now orderIds (db₁.recomputed now orderIds) where
  orders := by
    rw [← horders]
    rfl
  fits := by
    intro o ho hid
    -- a recomputed row is recomputed from the columns it kept
    rcases mem_updateWhere.mp ho with ⟨o', ho', -, rfl⟩ | ⟨-, hout⟩
    · exact hfits o' ho' hid
    · exact absurd hid (of_decide_eq_false hout)
  totals := htotals
  accepted := haccepted
  payments := hpayments
  overrides := hoverrides
  overridden := hoverridden
  windows := hwindows

/-- The cursors are no part of it. -/
theorem updateCursor (h : PaymentChange db now orderIds db') (stream : StreamId)
    (f : ChainCursor → ChainCursor) : PaymentChange db now orderIds (db'.updateCursor stream f) :=
  ⟨h.orders, h.fits, h.totals, h.accepted, h.payments, h.overrides, h.overridden, h.windows⟩

end PaymentChange

/-- The rows upserts leave are those before, or rows for stored orders. -/
theorem orderId_of_upserts {db db' : PaymentDb} {inputs : List (StreamId × MatchedPaymentInput)}
    {records : List PaymentRecord} {p : PaymentRecord}
    (h : upsertMatchedPayments db inputs = .ok (records, db')) (hp : p ∈ db'.payments) :
    p.orderId ∈ db.payments.map PaymentRecord.orderId
      ∨ p.orderId ∈ db.orders.map OrderRecord.id := by
  induction inputs generalizing db records with
  | nil =>
    obtain ⟨-, rfl⟩ := Prod.mk.inj (Except.ok.inj h)
    exact Or.inl (List.mem_map_of_mem hp)
  | cons input rest ih =>
    obtain ⟨record, tail, db₁, h₁, h₂, -⟩ := upsertMatchedPayments_cons_eq_ok h
    obtain ⟨o, w, how, rfl, hrecord, -⟩ := upsertMatchedPaymentTx_eq_ok h₁
    obtain ⟨ho, -⟩ := PaymentDb.matchedOrder_eq_some how
    have hstored : record.orderId ∈ db.orders.map OrderRecord.id := by
      rw [hrecord]
      exact List.mem_map_of_mem ho
    rcases ih h₂ with hin | hin
    · obtain ⟨r, hr, hro⟩ := List.mem_map.mp hin
      rcases mem_of_mem_upsertBy hr with rfl | hold
      · exact Or.inr (hro ▸ hstored)
      · exact Or.inl (hro ▸ List.mem_map_of_mem hold)
    · exact Or.inr hin

/-- Upserts, followed by a recompute of the orders written for. -/
theorem PaymentChange.of_upserts {db db₁ : PaymentDb} {now : Timestamp} {orderIds : List Uuid}
    {inputs : List (StreamId × MatchedPaymentInput)} {records : List PaymentRecord}
    (hup : upsertMatchedPayments db inputs = .ok (records, db₁))
    (hids : ∀ r ∈ records, r.orderId ∈ orderIds) (hfits : db₁.RecomputeFits now orderIds) :
    PaymentChange db now orderIds (db₁.recomputed now orderIds) := by
  have hframe := upsertMatchedPayments_frame hup
  have hover : db₁.overrides = db.overrides := by rw [hframe]
  refine PaymentChange.of_recomputed db (by rw [hframe]) hfits (fun id hid q => ?_)
    (fun _ _ => by rw [hover]) (fun p hp => orderId_of_upserts hup hp)
    (fun ov hov => Or.inl (hover ▸ hov)) (fun ov hov => hover ▸ List.mem_map_of_mem hov)
    (by rw [hframe])
  refine totalWhere_of_upserts hup q (fun hmem => ?_)
  obtain ⟨r, hr, hro⟩ := List.mem_map.mp hmem
  exact hid (hro ▸ hids r hr)

/-- An update of payments that keeps their orders, followed by a recompute of
the orders of the rows it selects. -/
theorem PaymentChange.of_updateWhere {db db₁ : PaymentDb} {now : Timestamp} {orderIds : List Uuid}
    {sel : PaymentRecord → Bool} {f : PaymentRecord → PaymentRecord}
    (hf : ∀ p, (f p).orderId = p.orderId)
    (hpay : db₁.payments = updateWhere sel f db.payments) (horders : db₁.orders = db.orders)
    (hover : db₁.overrides = db.overrides) (hwindows : db₁.windows = db.windows)
    (hids : ∀ p ∈ db.payments, sel p = true → p.orderId ∈ orderIds)
    (hfits : db₁.RecomputeFits now orderIds) :
    PaymentChange db now orderIds (db₁.recomputed now orderIds) := by
  refine PaymentChange.of_recomputed db horders hfits (fun id hid q => ?_)
    (fun _ _ => by rw [hover]) (fun p hp => Or.inl ?_) (fun ov hov => Or.inl (hover ▸ hov))
    (fun ov hov => hover ▸ List.mem_map_of_mem hov) hwindows
  · rw [hpay]
    exact totalWhere_updateWhere_of_ne hf (fun p hp hsel hpo => hid (hpo ▸ hids p hp hsel))
  · rw [← map_updateWhere (k := PaymentRecord.orderId) (p := sel) hf, ← hpay]
    exact List.mem_map_of_mem hp

/-- **Every transaction on payments recomputes the orders it touches.** -/
theorem paymentChange_of_run {db db' : PaymentDb} {now : Timestamp} {op : PaymentOp}
    (h : runPaymentOp db now op = .ok db') : ∃ orderIds, PaymentChange db now orderIds db' := by
  cases op with
  | claimScanRange workerId stream leaseUntil =>
    obtain ⟨⟨answer, db₂⟩, hc, rfl⟩ := Except.map_eq_ok.mp h
    obtain ⟨-, rfl⟩ | ⟨c, -, -, rfl⟩ := claimScanRange_eq_ok hc
    · exact ⟨[], PaymentChange.refl db₂ now⟩
    · exact ⟨[], (PaymentChange.refl db now).updateCursor _ _⟩
  | commitScannedBatch batch =>
    obtain ⟨⟨records, db₂⟩, hc, rfl⟩ := Except.map_eq_ok.mp h
    obtain ⟨c, db₁, -, -, -, -, -, hup, hfits, rfl⟩ := commitScannedBatch_eq_ok hc
    have hids : ∀ r ∈ records, r.orderId ∈ sortedSet (records.map PaymentRecord.orderId) :=
      fun r hr => mem_sortedSet.mpr (List.mem_map_of_mem hr)
    exact ⟨_, (PaymentChange.of_upserts hup hids hfits).updateCursor _ _⟩
  | confirmObservedPayments batch =>
    obtain ⟨⟨records, db₂⟩, hc, rfl⟩ := Except.map_eq_ok.mp h
    obtain ⟨orderIds, hids, hfits, rfl⟩ := confirmObservedPayments_eq_ok hc
    exact ⟨orderIds, PaymentChange.of_updateWhere (f := confirmRow batch.canonicalHead)
      (fun _ => rfl) rfl rfl rfl rfl hids hfits⟩
  | recordVerifiedPayments orderId ps =>
    obtain ⟨⟨records, db₂⟩, hc, rfl⟩ := Except.map_eq_ok.mp h
    obtain ⟨hall, written, db₁, hup, hfits, rfl⟩ := recordVerifiedPayments_eq_ok hc
    have hids : ∀ r ∈ written, r.orderId ∈ sortedSet [orderId] := fun r hr =>
      mem_sortedSet.mpr (List.mem_singleton.mpr
        (orderId_of_mem_upserts hup hr (by simpa using hall)))
    exact ⟨_, PaymentChange.of_upserts hup hids hfits⟩
  | handleKvReorgEpoch stream epoch lastReorgFrom =>
    obtain ⟨c, -, ⟨-, rfl⟩ | ⟨-, orderIds, hids, hfits, rfl⟩⟩ := handleKvReorgEpoch_eq_ok h
    · exact ⟨[], PaymentChange.refl db' now⟩
    · exact ⟨orderIds, PaymentChange.of_updateWhere (f := orphanRow)
        (fun _ => rfl) rfl rfl rfl rfl hids hfits⟩
  | acceptProblemPayment id ownerSub acceptedBy reason =>
    obtain ⟨⟨answer, db₂⟩, hc, rfl⟩ := Except.map_eq_ok.mp h
    obtain ⟨-, rfl⟩ | ⟨ov, rfl, ⟨o, ho, hid, -⟩, -, -, hfits, rfl⟩ :=
      acceptProblemPaymentForOwner_eq_ok hc
    · exact ⟨[], PaymentChange.refl db₂ now⟩
    · refine ⟨_, PaymentChange.of_recomputed db rfl hfits (fun _ _ _ => rfl)
        (fun id hid => ?_) (fun p hp => Or.inl (List.mem_map_of_mem hp)) (fun ov' hov => ?_)
        (fun ov' hov => mem_map_upsertBy.mpr (Or.inr (List.mem_map_of_mem hov))) rfl⟩
      · have hne : ov.orderId ≠ id := by
          intro hc
          exact hid (by simp [hc])
        unfold acceptedProblemPayment
        rw [find?_upsertBy_of_ne _ _ _ hne]
      · rcases mem_of_mem_upsertBy hov with rfl | hold
        · exact Or.inr (hid ▸ List.mem_map_of_mem ho)
        · exact Or.inl hold
  | recomputeExpiredOpenOrders databaseNow limit =>
    obtain ⟨⟨count, db₂⟩, hc, rfl⟩ := Except.map_eq_ok.mp h
    obtain ⟨orderIds, hfits, rfl⟩ := recomputeExpiredOpenOrders_eq_ok hc
    exact ⟨orderIds, PaymentChange.of_recomputed db rfl hfits (fun _ _ _ => rfl)
      (fun _ _ => rfl) (fun p hp => Or.inl (List.mem_map_of_mem hp)) (fun _ hov => Or.inl hov)
      (fun _ hov => List.mem_map_of_mem hov) rfl⟩

/-! ## The system -/

/-- **The transactions that write orders**: creation, and those on payments. -/
inductive OrderOp
  | createOrder (command : CreateOrderCommand)
  | payment (op : PaymentOp)
  deriving DecidableEq

/-- The database a transaction leaves, if it commits. -/
def runOrderOp (db : LedgerDb) (now : Timestamp) : OrderOp → Except RepositoryError LedgerDb
  | .createOrder command => (createOrderIdempotent db command).map Prod.snd
  | .payment op => (runPaymentOp db.payment now op).map db.setPayment

/-- The database and the time. -/
structure LedgerState where
  db : LedgerDb
  now : Timestamp
  deriving DecidableEq

/-- One transaction, no earlier than the last; a failed one leaves the database
as it was. -/
def orderStep (s : LedgerState) (a : Timestamp × OrderOp) : Option LedgerState :=
  if s.now ≤ a.1 then
    match runOrderOp s.db a.1 a.2 with
    | .ok db' => some ⟨db', a.1⟩
    | .error _ => some ⟨s.db, a.1⟩
  else none

/-- **Orders reflect their payments**: for each order there is a time, not in
the future, at which recomputing it changes nothing. -/
def LedgerState.OrdersReflectPayments (s : LedgerState) : Prop :=
  ∀ o ∈ s.db.payment.orders, ∃ t ≤ s.now,
    recomputeOrdersInTx s.db.payment t [o.id] = .ok s.db.payment

/-- No orders yet, and no payments. -/
structure LedgerDb.NoOrders (db : LedgerDb) : Prop where
  orders : db.payment.orders = []
  payments : db.payment.payments = []
  overrides : db.payment.overrides = []

/-! ## The invariant -/

/-- Each order is a recomputed row that fits its column, and payments and
overrides are of stored orders. -/
structure ReflectInv (db : PaymentDb) (now : Timestamp) : Prop where
  ids : (db.orders.map OrderRecord.id).Nodup
  reflects : ∀ o ∈ db.orders, ∃ t ≤ now, recomputedOrder db.payments db.overrides t o = o
  fits : ∀ o ∈ db.orders, o.paidAmountRaw < numeric78Bound
  payments : ∀ p ∈ db.payments, p.orderId ∈ db.orders.map OrderRecord.id
  overrides : ∀ ov ∈ db.overrides, ov.orderId ∈ db.orders.map OrderRecord.id

namespace ReflectInv

variable {db db' : PaymentDb} {now now' : Timestamp}

/-- A recompute of one order that is what it would become changes nothing. -/
theorem recompute_eq (h : ReflectInv db now) {o : OrderRecord} (ho : o ∈ db.orders) {t : Timestamp}
    (ht : recomputedOrder db.payments db.overrides t o = o) :
    recomputeOrdersInTx db t [o.id] = .ok db := by
  have hsel : ∀ q ∈ db.orders, decide (q.id ∈ [o.id]) = true → q = o := by
    intro q hq hid
    have hid' : q.id = o.id := by simpa using hid
    exact List.inj_on_of_nodup_map h.ids hq ho hid'
  have hlength : (db.orders.filter (fun q => decide (q.id ∈ [o.id]))).length = 1 := by
    rw [← List.countP_eq_length_filter]
    exact countP_eq_one (List.Nodup.of_map _ h.ids) ho (by simp) hsel
  have hrow : ∀ q ∈ db.orders.filter (fun q => decide (q.id ∈ [o.id])), q = o := fun q hq =>
    hsel q (List.mem_filter.mp hq).1 (List.mem_filter.mp hq).2
  have hsame : db.recomputed t [o.id] = db := by
    unfold PaymentDb.recomputed updateWhere
    have hmap : db.orders.map (fun q => if decide (q.id ∈ [o.id]) = true then
        recomputedOrder db.payments db.overrides t q else q) = db.orders := by
      refine (List.map_congr_left (fun q hq => ?_)).trans (List.map_id db.orders)
      by_cases hid : decide (q.id ∈ [o.id]) = true
      · obtain rfl := hsel q hq hid
        rw [if_pos hid, ht]
        rfl
      · rw [if_neg hid]
        rfl
    rw [hmap]
  unfold recomputeOrdersInTx
  rw [if_neg (by simp)]
  refine ensure_bind_eq_ok.mpr ⟨by rw [hlength]; rfl, ensure_bind_eq_ok.mpr ⟨?_, ?_⟩⟩
  · refine List.all_eq_true.mpr (fun q hq => decide_eq_true ?_)
    obtain rfl := hrow q hq
    rw [ht]
    exact h.fits q ho
  · rw [hsame]
    rfl

/-- Later, the times that were not in the future are not in the future. -/
theorem mono (h : ReflectInv db now) (hle : now ≤ now') : ReflectInv db now' := by
  refine ⟨h.ids, fun o ho => ?_, h.fits, h.payments, h.overrides⟩
  obtain ⟨t, ht, hrow⟩ := h.reflects o ho
  exact ⟨t, ht.trans hle, hrow⟩

/-- **A transaction on payments** keeps the invariant. -/
theorem of_paymentChange (h : ReflectInv db now) {orderIds : List Uuid}
    (hc : PaymentChange db now orderIds db') : ReflectInv db' now := by
  have hids : db'.orders.map OrderRecord.id = db.orders.map OrderRecord.id := by
    rw [hc.orders]
    exact map_updateWhere (k := OrderRecord.id)
      (f := recomputedOrder db'.payments db'.overrides now) (fun _ => rfl) db.orders
  refine ⟨hids ▸ h.ids, fun o ho => ?_, fun o ho => ?_, fun p hp => ?_, fun ov hov => ?_⟩
  · rw [hc.orders] at ho
    rcases mem_updateWhere.mp ho with ⟨o', -, -, rfl⟩ | ⟨ho', hout⟩
    · exact ⟨now, Int.le_refl now, rfl⟩
    · obtain ⟨t, ht, hrow⟩ := h.reflects o ho'
      have hid := of_decide_eq_false hout
      refine ⟨t, ht, Eq.trans ?_ hrow⟩
      unfold recomputedOrder
      rw [hc.accepted o.id hid]
      exact recomputedOrder_congr ⟨hc.totals o.id hid _, hc.totals o.id hid _⟩ db.overrides t
  · rw [hc.orders] at ho
    rcases mem_updateWhere.mp ho with ⟨o', ho', hsel, rfl⟩ | ⟨ho', -⟩
    · have hmem : recomputedOrder db'.payments db'.overrides now o' ∈ db'.orders := by
        rw [hc.orders]
        exact mem_updateWhere.mpr (Or.inl ⟨o', ho', hsel, rfl⟩)
      have hfits := hc.fits (recomputedOrder db'.payments db'.overrides now o') hmem
        (of_decide_eq_true hsel)
      exact hfits
    · exact h.fits o ho'
  · rw [hids]
    rcases hc.payments p hp with hold | hstored
    · obtain ⟨r, hr, hro⟩ := List.mem_map.mp hold
      exact hro ▸ h.payments r hr
    · exact hstored
  · rw [hids]
    rcases hc.overrides ov hov with hold | hstored
    · exact h.overrides ov hold
    · exact hstored

end ReflectInv

/-- An order without payments and without an override is pending before it
expires. -/
theorem recomputedOrder_newOrder {payments : List PaymentRecord}
    {overrides : List OrderPaymentOverride} {command : CreateOrderCommand} {t : Timestamp}
    (hexp : 0 < command.expectedAmountRaw.toNat)
    (hpay : ∀ p ∈ payments, p.orderId ≠ command.orderId)
    (hov : ∀ ov ∈ overrides, ov.orderId ≠ command.orderId)
    (ht : t < command.paymentWindow.expiresAt) :
    recomputedOrder payments overrides t (newOrder command) = newOrder command := by
  have hnone : overrides.find? (fun ov => decide (ov.orderId = command.orderId)) = none :=
    List.find?_eq_none.mpr (fun ov h => by simpa using hov ov h)
  have haccepted : acceptedProblemPayment overrides command.orderId = 0 := by
    unfold acceptedProblemPayment
    rw [hnone]
    rfl
  have hconfirmed : confirmedOnTimeTotal payments command.orderId = 0 := totalWhere_eq_zero hpay
  have hseen : nonOrphanedOnTimeTotal payments command.orderId = 0 := totalWhere_eq_zero hpay
  have hstatus : recomputeStatusFromTotals command.expectedAmountRaw.toNat 0 0
      (decide (command.paymentWindow.expiresAt ≤ t)) = .pending := by
    unfold recomputeStatusFromTotals
    rw [decide_eq_false (Int.not_le.mpr ht), if_neg (Nat.not_le.mpr hexp),
      if_neg (Nat.not_le.mpr hexp)]
    rfl
  show ({ newOrder command with
      paidAmountRaw := confirmedOnTimeTotal payments command.orderId
        + acceptedProblemPayment overrides command.orderId
      status := recomputeStatusFromTotals command.expectedAmountRaw.toNat
        (confirmedOnTimeTotal payments command.orderId
          + acceptedProblemPayment overrides command.orderId)
        (nonOrphanedOnTimeTotal payments command.orderId
          + acceptedProblemPayment overrides command.orderId)
        (decide (command.paymentWindow.expiresAt ≤ t)) } : OrderRecord) = newOrder command
  rw [hconfirmed, hseen, haccepted, hstatus]
  rfl

/-- **A creation** keeps the invariant: nothing refers to the new order yet. -/
theorem ReflectInv.of_withOrder {db : LedgerDb} {now : Timestamp} {command : CreateOrderCommand}
    (h : ReflectInv db.payment now) (hc : db.Creates command) :
    ReflectInv (db.withOrder command).payment now := by
  have hids : ((db.withOrder command).payment.orders.map OrderRecord.id)
      = db.payment.orders.map OrderRecord.id ++ [command.orderId] := by
    show (db.payment.orders ++ [newOrder command]).map OrderRecord.id = _
    rw [List.map_append]
    rfl
  have hfresh : command.orderId ∉ db.payment.orders.map OrderRecord.id := by
    intro hmem
    obtain ⟨o, ho, hid⟩ := List.mem_map.mp hmem
    exact hc.fresh o ho hid
  refine ⟨?_, fun o ho => ?_, fun o ho => ?_, fun p hp => ?_, fun ov hov => ?_⟩
  · rw [hids]
    exact List.Nodup.append h.ids (List.nodup_singleton _) (by simpa using hfresh)
  · rcases List.mem_append.mp ho with ho | ho
    · exact h.reflects o ho
    · obtain rfl := List.mem_singleton.mp ho
      -- any time before the expiry will do
      refine ⟨min now (command.paymentWindow.expiresAt - 1), min_le_left _ _,
        recomputedOrder_newOrder hc.expected (fun p hp heq => ?_) (fun ov hov heq => ?_) ?_⟩
      · exact hfresh (heq ▸ h.payments p hp)
      · exact hfresh (heq ▸ h.overrides ov hov)
      · exact lt_of_le_of_lt (min_le_right _ _) (Int.sub_one_lt_of_le (Int.le_refl _))
  · rcases List.mem_append.mp ho with ho | ho
    · exact h.fits o ho
    · obtain rfl := List.mem_singleton.mp ho
      exact Nat.pow_pos (by decide)
  · rw [hids]
    exact List.mem_append_left _ (h.payments p hp)
  · rw [hids]
    exact List.mem_append_left _ (h.overrides ov hov)

/-- **One transaction** keeps the invariant, whether it commits or not. -/
theorem ReflectInv.step {s s' : LedgerState} {a : Timestamp × OrderOp}
    (h : ReflectInv s.db.payment s.now) (hs : orderStep s a = some s') :
    ReflectInv s'.db.payment s'.now := by
  obtain ⟨now, op⟩ := a
  unfold orderStep at hs
  dsimp only at hs
  by_cases hle : s.now ≤ now
  · rw [if_pos hle] at hs
    cases hrun : runOrderOp s.db now op with
    | error e =>
      rw [hrun] at hs
      exact Option.some.inj hs ▸ h.mono hle
    | ok db' =>
      rw [hrun] at hs
      obtain rfl := Option.some.inj hs
      cases op with
      | createOrder command =>
        obtain ⟨⟨outcome, db₁⟩, hcreate, rfl⟩ := Except.map_eq_ok.mp hrun
        obtain ⟨_, _, -, -, -, rfl⟩ | ⟨_, -, -, hc, rfl⟩ := createOrderIdempotent_eq_ok hcreate
        · exact h.mono hle
        · exact (h.mono hle).of_withOrder hc
      | payment op =>
        obtain ⟨db₁, hop, rfl⟩ := Except.map_eq_ok.mp hrun
        obtain ⟨orderIds, hc⟩ := paymentChange_of_run hop
        exact (h.mono hle).of_paymentChange hc
  · rw [if_neg hle] at hs
    cases hs

theorem LedgerDb.NoOrders.reflectInv {db : LedgerDb} (h : db.NoOrders) (now : Timestamp) :
    ReflectInv db.payment now := by
  refine ⟨?_, fun o ho => ?_, fun o ho => ?_, fun p hp => ?_, fun ov hov => ?_⟩
  · rw [h.orders]
    exact List.nodup_nil
  · exact absurd (h.orders ▸ ho) List.not_mem_nil
  · exact absurd (h.orders ▸ ho) List.not_mem_nil
  · exact absurd (h.payments ▸ hp) List.not_mem_nil
  · exact absurd (h.overrides ▸ hov) List.not_mem_nil

/-! ## Every run -/

/-- **Orders reflect their payments** after every sequence of creations and
transactions on payments, committed or rolled back. -/
theorem ordersReflectPayments_of_run {s s' : LedgerState} {ops : List (Timestamp × OrderOp)}
    (hempty : s.db.NoOrders) (hr : runSteps orderStep s ops = some s') :
    s'.OrdersReflectPayments := by
  have hinv : ReflectInv s'.db.payment s'.now :=
    inv_of_run (I := fun s => ReflectInv s.db.payment s.now) (P := fun _ _ => True)
      (fun _ _ _ h _ hs => h.step hs) (hempty.reflectInv s.now)
      (stepsMeet_of_forall (fun _ _ => trivial) s ops) hr
  intro o ho
  obtain ⟨t, ht, hrow⟩ := hinv.reflects o ho
  exact ⟨t, ht, hinv.recompute_eq ho hrow⟩

namespace CreatedThenPaid

/-- An order of 100, due at time 10 and watched until 20. -/
def command : CreateOrderCommand where
  orderId := 1
  ownerSub := "merchant"
  externalId := "invoice-1"
  requestHash := "h"
  childAccount := ⟨2, "key", 1, ⟨0, 0, 0, Nat.zero_le _, Nat.zero_le _, Nat.zero_le _⟩, "m/44'/60'/0'/0/0", 3⟩
  chainId := 1
  tokenAddress := 4
  expectedAmountRaw := 100
  paymentWindow := ⟨5, 1, 2, 3, 0, ⟨1, 0⟩, 10, 20⟩

/-- No orders, and a cursor the scanner has leased. -/
def db : LedgerDb where
  payment := ⟨[], [], [], [], [⟨1, 4, 0, 0, some "scanner", some 50⟩]⟩
  orderKeys := []
  collector := ⟨[], [], [], [], [], [], []⟩
  orders_eq := rfl

/-- The whole amount, in time, in block 5. -/
def payment : MatchedPaymentInput :=
  { LatePayment.latePayment with blockTime := 9, matchStatus := .onTime }

/-- The order is created twice, paid, and the payment is reorganised away. -/
def ops : List (Timestamp × OrderOp) :=
  [(1, .createOrder command),
   (2, .createOrder command),
   (9, .payment (.commitScannedBatch ⟨⟨1, 4⟩, "scanner", 0, 6, 0, [payment]⟩)),
   (11, .payment (.handleKvReorgEpoch ⟨1, 4⟩ 1 5)),
   (12, .payment (.recomputeExpiredOpenOrders 12 10))]

end CreatedThenPaid

/-- An order that was paid and lost its payment is expired again. -/
theorem ordersReflectPayments_of_createdThenPaid :
    ∃ s, runSteps orderStep ⟨CreatedThenPaid.db, 0⟩ CreatedThenPaid.ops = some s
      ∧ s.db.payment.orders.map OrderRecord.status = [.expired] ∧ s.OrdersReflectPayments := by
  have hstatus : (runSteps orderStep ⟨CreatedThenPaid.db, 0⟩ CreatedThenPaid.ops).map
      (fun s => s.db.payment.orders.map OrderRecord.status) = some [.expired] := by decide +kernel
  obtain ⟨s, hr, hexpired⟩ := Option.map_eq_some_iff.mp hstatus
  exact ⟨s, hr, hexpired, ordersReflectPayments_of_run ⟨rfl, rfl, rfl⟩ hr⟩
