import Pay3.PaymentRepository
import Pay3.Runs

/-!
# What an order is said to be paid

Six transactions change payments, overrides or orders. After each of them an
order's paid amount is its confirmed on-time payments plus what an operator
accepted of its late ones, and the accepted part is a number written down
once. Nothing takes it back: when the late payments behind it are orphaned,
dated back into the window, or seen unconfirmed again, the order keeps the
amount and stays paid.

So the books balance exactly as long as the confirmed late payments of an
order cover its override. `covered` is that part of the invariant, and the
condition of the run theorem says of each transaction that the payments it
leaves as they are still cover every override.
-/

/-- **The transactions on payments and orders.** -/
inductive PaymentOp
  | claimScanRange (workerId : String) (stream : StreamId) (leaseUntil : Timestamp)
  | commitScannedBatch (batch : CommitScannedBatch)
  | confirmObservedPayments (batch : ConfirmObservedPaymentsBatch)
  | recordVerifiedPayments (orderId : Uuid) (matchedPayments : List MatchedPaymentInput)
  | handleKvReorgEpoch (stream : StreamId) (epoch lastReorgFrom : ℕ)
  | acceptProblemPayment (id : Uuid) (ownerSub acceptedBy : String) (reason : Option String)
  | recomputeExpiredOpenOrders (databaseNow : Timestamp) (limit : ℕ)
  deriving DecidableEq

/-- The database a transaction leaves, if it commits. -/
def runPaymentOp (db : PaymentDb) (now : Timestamp) : PaymentOp → Except RepositoryError PaymentDb
  | .claimScanRange workerId stream leaseUntil =>
    (claimScanRange db now workerId stream leaseUntil).map Prod.snd
  | .commitScannedBatch batch => (commitScannedBatch db now batch).map Prod.snd
  | .confirmObservedPayments batch => (confirmObservedPayments db now batch).map Prod.snd
  | .recordVerifiedPayments orderId ps => (recordVerifiedPayments db now orderId ps).map Prod.snd
  | .handleKvReorgEpoch stream epoch lastReorgFrom =>
    handleKvReorgEpoch db now stream epoch lastReorgFrom
  | .acceptProblemPayment id ownerSub acceptedBy reason =>
    (acceptProblemPaymentForOwner db now id ownerSub acceptedBy reason).map Prod.snd
  | .recomputeExpiredOpenOrders databaseNow limit =>
    (recomputeExpiredOpenOrders db databaseNow now limit).map Prod.snd

/-- One transaction at a given time; a failed one leaves the database as it was. -/
def paymentStep (db : PaymentDb) (a : Timestamp × PaymentOp) : Option PaymentDb :=
  match runPaymentOp db a.1 a.2 with
  | .ok db' => some db'
  | .error _ => some db

/-- **Orders as they are created**: nothing paid, nothing seen. -/
structure PaymentDb.Fresh (db : PaymentDb) : Prop where
  no_payments : db.payments = []
  no_overrides : db.overrides = []
  unpaid : ∀ o ∈ db.orders, o.paidAmountRaw = 0 ∧ o.status = .pending

/-- **Paid means paid**: no order is credited with more than its confirmed
payments add up to, and a paid one has its expected amount confirmed. -/
def PaymentDb.PaidMeansPaid (db : PaymentDb) : Prop :=
  ∀ o ∈ db.orders, o.paidAmountRaw ≤ confirmedTotal db.payments o.id
    ∧ (o.status = .paid → o.expectedAmountRaw.toNat ≤ confirmedTotal db.payments o.id)

instance (db : PaymentDb) : Decidable db.PaidMeansPaid :=
  inferInstanceAs (Decidable (∀ o ∈ db.orders, _ ∧ _))

/-! ## The condition -/

/-- A row that a batch of upserts leaves standing as a confirmed problem
payment of at least its amount: whatever is written over it is one too. -/
def leftByUpserts (db : PaymentDb) (inputs : List (StreamId × MatchedPaymentInput))
    (p : PaymentRecord) : Bool :=
  inputs.all (fun input =>
    match db.matchedOrder input.1 input.2 with
    | none => true
    | some (o, w) =>
      let row := proposedRow o w input.2
      !decide (row.key = p.key) ||
        (row.isConfirmedProblem && decide (p.amountRaw.toNat ≤ row.amountRaw.toNat)))

/-- **The confirmed problem payments a transaction leaves alone.** -/
def PaymentOp.leaves (db : PaymentDb) : PaymentOp → PaymentRecord → Bool
  | .commitScannedBatch batch, p =>
    leftByUpserts db (batch.matchedPayments.map (fun m => (batch.stream, m))) p
  | .recordVerifiedPayments _ ps, p =>
    leftByUpserts db (ps.map (fun m => (⟨m.chainId, m.tokenAddress⟩, m))) p
  | .handleKvReorgEpoch stream epoch lastReorgFrom, p =>
    (db.cursor? stream).any (fun c => decide (epoch ≤ c.seenKvReorgEpoch)) ||
      !orphanSelects stream lastReorgFrom p
  | _, _ => true

/-- **The transaction, if it commits, leaves enough confirmed problem payments
alone to cover every override.** -/
def CoversAccepted (db : PaymentDb) (a : Timestamp × PaymentOp) : Prop :=
  (runPaymentOp db a.1 a.2).isOk = true → ∀ ov ∈ db.overrides, ov.acceptedProblemPaymentRaw.toNat
    ≤ totalWhere (fun p => p.isConfirmedProblem && a.2.leaves db p) db.payments ov.orderId

instance (db : PaymentDb) (a : Timestamp × PaymentOp) : Decidable (CoversAccepted db a) :=
  inferInstanceAs (Decidable (_ = true → ∀ ov ∈ db.overrides, _ ≤ _))

/-! ## The invariant -/

/-- An order whose row is what its payments and override say. -/
def OrderRecord.Settled (payments : List PaymentRecord) (overrides : List OrderPaymentOverride)
    (o : OrderRecord) : Prop :=
  o.paidAmountRaw = confirmedOnTimeTotal payments o.id + acceptedProblemPayment overrides o.id
    ∧ (o.status = .paid → o.expectedAmountRaw.toNat ≤ o.paidAmountRaw)

/-- Every order is settled, and every override is covered by confirmed problem
payments. -/
structure PaidInv (db : PaymentDb) : Prop where
  settled : ∀ o ∈ db.orders, o.Settled db.payments db.overrides
  covered : ∀ id, acceptedProblemPayment db.overrides id ≤ confirmedProblemTotal db.payments id

/-- A recomputed row is settled. -/
theorem recomputedOrder_settled (payments : List PaymentRecord)
    (overrides : List OrderPaymentOverride) (now : Timestamp) (o : OrderRecord) :
    (recomputedOrder payments overrides now o).Settled payments overrides :=
  ⟨rfl, fun h => recomputeStatusFromTotals_eq_paid.mp h⟩

/-- Recomputing the orders that are not settled settles them all. -/
theorem settled_recomputed {db : PaymentDb} {now : Timestamp} {orderIds : List Uuid}
    (h : ∀ o ∈ db.orders, o.id ∉ orderIds → o.Settled db.payments db.overrides) :
    ∀ o ∈ (db.recomputed now orderIds).orders, o.Settled db.payments db.overrides := by
  intro o ho
  rcases mem_updateWhere.mp ho with ⟨o', -, -, rfl⟩ | ⟨ho', hid⟩
  · exact recomputedOrder_settled db.payments db.overrides now o'
  · exact h o ho' (by simpa using hid)

/-- A settled order stays settled while its totals do not move. -/
theorem OrderRecord.Settled.of_totals {payments payments' : List PaymentRecord}
    {overrides overrides' : List OrderPaymentOverride} {o : OrderRecord}
    (h : o.Settled payments overrides)
    (hpay : confirmedOnTimeTotal payments' o.id = confirmedOnTimeTotal payments o.id)
    (hov : acceptedProblemPayment overrides' o.id = acceptedProblemPayment overrides o.id) :
    o.Settled payments' overrides' := by
  refine ⟨?_, h.2⟩
  rw [hpay, hov]
  exact h.1

/-- **The invariant gives the books.** -/
theorem PaidInv.paidMeansPaid {db : PaymentDb} (h : PaidInv db) : db.PaidMeansPaid := by
  intro o ho
  obtain ⟨hpaid, hstatus⟩ := h.settled o ho
  have hcover := h.covered o.id
  have htotal := confirmedTotal_eq db.payments o.id
  refine ⟨by omega, fun hp => ?_⟩
  have hexp := hstatus hp
  omega

theorem PaymentDb.Fresh.paidInv {db : PaymentDb} (h : db.Fresh) : PaidInv db := by
  refine ⟨fun o ho => ⟨?_, fun hp => ?_⟩, fun id => ?_⟩
  · rw [h.no_payments, h.no_overrides]
    exact (h.unpaid o ho).1
  · rw [(h.unpaid o ho).2] at hp
    cases hp
  · rw [h.no_overrides]
    exact Nat.zero_le _

/-! ## Upserts -/

/-- What a sequence of upserts makes of the rows it started from: they keep
their places and orders, and the ones left alone stay confirmed problem
payments of at least their amount. -/
def LeftStanding (leaves : PaymentRecord → Bool) (rows rows' : List PaymentRecord) : Prop :=
  ∃ pre post, rows' = pre ++ post ∧ List.Forall₂ (fun p p' => p'.key = p.key
    ∧ p'.orderId = p.orderId ∧ (p.isConfirmedProblem = true → leaves p = true →
      p'.isConfirmedProblem = true ∧ p.amountRaw.toNat ≤ p'.amountRaw.toNat)) rows pre

theorem LeftStanding.refl (leaves : PaymentRecord → Bool) (rows : List PaymentRecord) :
    LeftStanding leaves rows rows :=
  ⟨rows, [], (List.append_nil rows).symm,
    List.forall₂_same.mpr (fun _ _ => ⟨rfl, rfl, fun hp _ => ⟨hp, Nat.le_refl _⟩⟩)⟩

/-- Writing one row: it lands on the row with its key, if there is one. -/
theorem LeftStanding.write {leaves : PaymentRecord → Bool}
    {rows rows' : List PaymentRecord} {record : PaymentRecord} (h : LeftStanding leaves rows rows')
    (hold : ∀ old, rows'.find? (fun p => decide (p.key = record.key)) = some old →
      old.orderId = record.orderId)
    (hleaves : ∀ p ∈ rows, leaves p = true → p.key = record.key →
      record.isConfirmedProblem = true ∧ p.amountRaw.toNat ≤ record.amountRaw.toNat) :
    LeftStanding leaves rows (upsertBy PaymentRecord.key record rows') := by
  obtain ⟨pre, post, rfl, hpre⟩ := h
  induction hpre with
  | nil => exact ⟨[], _, rfl, List.Forall₂.nil⟩
  | @cons p p' rows pre hp hrest ih =>
    obtain ⟨hkey, horder, hprob⟩ := hp
    rw [List.cons_append] at hold ⊢
    unfold upsertBy
    by_cases hk : p'.key = record.key
    · rw [if_pos hk]
      have ho : p'.orderId = record.orderId := hold p' (by simp [hk])
      refine ⟨record :: pre, post, rfl, List.Forall₂.cons ⟨?_, ?_, fun _ hl => ?_⟩ hrest⟩
      · rw [← hk, hkey]
      · rw [← ho, horder]
      · exact hleaves p List.mem_cons_self hl (hkey ▸ hk)
    · rw [if_neg hk]
      obtain ⟨pre', post', heq, hpre'⟩ := ih
        (fun q hq => hleaves q (List.mem_cons_of_mem p hq))
        (fun old h => hold old (by simpa [hk] using h))
      rw [heq]
      exact ⟨p' :: pre', post', rfl, List.Forall₂.cons ⟨hkey, horder, hprob⟩ hpre'⟩

/-- What is left standing covers at least what it did. -/
theorem LeftStanding.total_le {leaves : PaymentRecord → Bool} {rows rows' : List PaymentRecord}
    (h : LeftStanding leaves rows rows') (orderId : Uuid) :
    totalWhere (fun p => p.isConfirmedProblem && leaves p) rows orderId
      ≤ confirmedProblemTotal rows' orderId := by
  obtain ⟨pre, post, rfl, hpre⟩ := h
  have hle : totalWhere (fun p => p.isConfirmedProblem && leaves p) rows orderId
      ≤ confirmedProblemTotal pre orderId := by
    refine totalWhere_le_of_forall₂ (hpre.imp ?_)
    rintro p p' ⟨-, horder, hprob⟩
    unfold PaymentRecord.share
    by_cases hc : p.orderId = orderId ∧ (p.isConfirmedProblem && leaves p) = true
    · obtain ⟨ho, hq⟩ := hc
      rw [Bool.and_eq_true] at hq
      obtain ⟨hprob', hamount⟩ := hprob hq.1 hq.2
      rw [if_pos ⟨ho, by simp [hq]⟩, if_pos ⟨horder.trans ho, hprob'⟩]
      exact hamount
    · rw [if_neg hc]
      exact Nat.zero_le _
  have happ : confirmedProblemTotal (pre ++ post) orderId
      = confirmedProblemTotal pre orderId + confirmedProblemTotal post orderId :=
    totalWhere_append _ pre post orderId
  omega

/-- An upsert lands only on a row of the order it is for. -/
theorem orderId_of_upsert {db db' : PaymentDb} {stream : StreamId} {payment : MatchedPaymentInput}
    {record old : PaymentRecord}
    (h : upsertMatchedPaymentTx db stream payment = .ok (record, db'))
    (hold : db.payments.find? (fun p => decide (p.key = record.key)) = some old) :
    old.orderId = record.orderId := by
  obtain ⟨o, w, -, -, -, hcase⟩ := upsertMatchedPaymentTx_eq_ok h
  rcases hcase with ⟨old', hfind, hsame, -⟩ | ⟨hnone, -⟩
  · rw [hfind, Option.some.injEq] at hold
    subst hold
    simp only [sameTarget, Bool.and_eq_true, decide_eq_true_eq] at hsame
    exact hsame.1.1.1
  · rw [hnone] at hold
    cases hold

/-- Upserts touch the totals of the orders they wrote rows for, and of no other. -/
theorem totalWhere_of_upserts {db db' : PaymentDb}
    {inputs : List (StreamId × MatchedPaymentInput)} {records : List PaymentRecord}
    (h : upsertMatchedPayments db inputs = .ok (records, db')) (q : PaymentRecord → Bool)
    {orderId : Uuid} (hnot : orderId ∉ records.map PaymentRecord.orderId) :
    totalWhere q db'.payments orderId = totalWhere q db.payments orderId := by
  induction inputs generalizing db records with
  | nil =>
    obtain ⟨-, rfl⟩ := Prod.mk.inj (Except.ok.inj h)
    rfl
  | cons input rest ih =>
    obtain ⟨record, tail, db₁, h₁, h₂, rfl⟩ := upsertMatchedPayments_cons_eq_ok h
    rw [List.map_cons, List.mem_cons, not_or] at hnot
    obtain ⟨o, w, -, hdb, -⟩ := upsertMatchedPaymentTx_eq_ok h₁
    calc totalWhere q db'.payments orderId
        = totalWhere q db₁.payments orderId := ih h₂ hnot.2
      _ = totalWhere q (upsertBy PaymentRecord.key record db.payments) orderId := by rw [hdb]
      _ = totalWhere q db.payments orderId :=
          totalWhere_upsertBy_of_ne (fun hc => hnot.1 hc.symm)
            (fun _ hold => orderId_of_upsert h₁ hold)

/-- The rows upserts write are for the orders their inputs name. -/
theorem orderId_of_mem_upserts {db db' : PaymentDb} {orderId : Uuid}
    {inputs : List (StreamId × MatchedPaymentInput)} {records : List PaymentRecord}
    {r : PaymentRecord} (h : upsertMatchedPayments db inputs = .ok (records, db'))
    (hr : r ∈ records) (hall : ∀ input ∈ inputs, input.2.orderId = orderId) :
    r.orderId = orderId := by
  induction inputs generalizing db records with
  | nil =>
    obtain ⟨rfl, -⟩ := Prod.mk.inj (Except.ok.inj h)
    exact absurd hr List.not_mem_nil
  | cons input rest ih =>
    obtain ⟨record, tail, db₁, h₁, h₂, rfl⟩ := upsertMatchedPayments_cons_eq_ok h
    rcases List.mem_cons.mp hr with rfl | hr
    · obtain ⟨o, w, how, -, hrecord, -⟩ := upsertMatchedPaymentTx_eq_ok h₁
      obtain ⟨-, hid, -⟩ := PaymentDb.matchedOrder_eq_some how
      rw [hrecord]
      exact hid.trans (hall input List.mem_cons_self)
    · exact ih h₂ hr (fun i hi => hall i (List.mem_cons_of_mem input hi))

/-- Upserts leave standing what `leftByUpserts` says they do. The rows compared
with are those before the first of them, while the loop runs on. -/
theorem leftStanding_of_upserts {leaves : PaymentRecord → Bool} {rows : List PaymentRecord}
    {db db' : PaymentDb} {inputs : List (StreamId × MatchedPaymentInput)}
    {records : List PaymentRecord} (hrows : LeftStanding leaves rows db.payments)
    (hleaves : ∀ p ∈ rows, leaves p = true → leftByUpserts db inputs p = true)
    (h : upsertMatchedPayments db inputs = .ok (records, db')) :
    LeftStanding leaves rows db'.payments := by
  induction inputs generalizing db records with
  | nil =>
    obtain ⟨-, rfl⟩ := Prod.mk.inj (Except.ok.inj h)
    exact hrows
  | cons input rest ih =>
    obtain ⟨record, tail, db₁, h₁, h₂, -⟩ := upsertMatchedPayments_cons_eq_ok h
    obtain ⟨o, w, how, hdb, hrecord, -⟩ := upsertMatchedPaymentTx_eq_ok h₁
    have hhead : ∀ p ∈ rows, leaves p = true → p.key = record.key →
        record.isConfirmedProblem = true ∧ p.amountRaw.toNat ≤ record.amountRaw.toNat := by
      intro p hp hl hk
      have hall := hleaves p hp hl
      unfold leftByUpserts at hall
      rw [List.all_cons, Bool.and_eq_true, how] at hall
      have hrow := hall.1
      have hkey : (proposedRow o w input.2).key = p.key := by
        rw [hk, hrecord]
        rfl
      simp only [hkey, decide_true, Bool.not_true, Bool.false_or, Bool.and_eq_true,
        decide_eq_true_eq] at hrow
      rw [hrecord]
      exact hrow
    have hnext : LeftStanding leaves rows db₁.payments := by
      rw [hdb]
      exact hrows.write (fun _ hold => orderId_of_upsert h₁ hold) hhead
    refine ih hnext (fun p hp hl => ?_) h₂
    have hall := hleaves p hp hl
    unfold leftByUpserts at hall ⊢
    rw [List.all_cons, Bool.and_eq_true] at hall
    rw [hdb]
    exact hall.2

/-! ## One transaction -/

/-- The override of an order is one of the table's. -/
theorem acceptedProblemPayment_le {overrides : List OrderPaymentOverride} {n : Uuid → ℕ}
    (h : ∀ ov ∈ overrides, ov.acceptedProblemPaymentRaw.toNat ≤ n ov.orderId) (id : Uuid) :
    acceptedProblemPayment overrides id ≤ n id := by
  unfold acceptedProblemPayment
  cases hfind : overrides.find? (fun ov => decide (ov.orderId = id)) with
  | none => exact Nat.zero_le _
  | some ov =>
    obtain ⟨hmem, rfl⟩ := mem_of_find?_key hfind
    exact h ov hmem

/-- Upserts followed by a recompute of the orders written for. -/
theorem PaidInv.of_upserts {db db₁ : PaymentDb} {inputs : List (StreamId × MatchedPaymentInput)}
    {records : List PaymentRecord} {now : Timestamp} {orderIds : List Uuid} (h : PaidInv db)
    (hup : upsertMatchedPayments db inputs = .ok (records, db₁))
    (hids : ∀ r ∈ records, r.orderId ∈ orderIds)
    (hcov : ∀ ov ∈ db.overrides, ov.acceptedProblemPaymentRaw.toNat ≤ totalWhere
      (fun p => p.isConfirmedProblem && leftByUpserts db inputs p) db.payments ov.orderId) :
    PaidInv (db₁.recomputed now orderIds) := by
  have hframe := upsertMatchedPayments_frame hup
  have hover : db₁.overrides = db.overrides := by rw [hframe]
  have horders : db₁.orders = db.orders := by rw [hframe]
  refine ⟨settled_recomputed (fun o ho hid => ?_), fun id => ?_⟩
  · rw [hover]
    refine (h.settled o (horders ▸ ho)).of_totals (totalWhere_of_upserts hup _ ?_) rfl
    rw [List.mem_map]
    rintro ⟨r, hr, hro⟩
    exact hid (hro ▸ hids r hr)
  · have hstand := leftStanding_of_upserts (LeftStanding.refl (leftByUpserts db inputs) db.payments)
      (fun _ _ hl => hl) hup
    show acceptedProblemPayment db₁.overrides id ≤ confirmedProblemTotal db₁.payments id
    rw [hover]
    exact (acceptedProblemPayment_le hcov id).trans (hstand.total_le id)

/-- An update of payments that keeps their orders, followed by a recompute of
the orders of the selected rows. -/
theorem PaidInv.of_updateWhere {db : PaymentDb} {sel : PaymentRecord → Bool}
    {f : PaymentRecord → PaymentRecord} {db₁ : PaymentDb} {now : Timestamp} {orderIds : List Uuid}
    (h : PaidInv db) (hf : ∀ p, (f p).orderId = p.orderId)
    (hpay : db₁.payments = updateWhere sel f db.payments) (horders : db₁.orders = db.orders)
    (hover : db₁.overrides = db.overrides)
    (hids : ∀ p ∈ db.payments, sel p = true → p.orderId ∈ orderIds)
    (hcov : ∀ id, acceptedProblemPayment db.overrides id
      ≤ confirmedProblemTotal (updateWhere sel f db.payments) id) :
    PaidInv (db₁.recomputed now orderIds) := by
  refine ⟨settled_recomputed (fun o ho hid => ?_), fun id => ?_⟩
  · rw [hpay, hover]
    refine (h.settled o (horders ▸ ho)).of_totals (totalWhere_updateWhere_of_ne hf ?_) rfl
    intro p hp hsel hpo
    exact hid (hpo ▸ hids p hp hsel)
  · show acceptedProblemPayment db₁.overrides id ≤ confirmedProblemTotal db₁.payments id
    rw [hover, hpay]
    exact hcov id

/-- Confirming payments takes nothing away from what is confirmed. -/
theorem PaidInv.of_confirm {db db' : PaymentDb} {now : Timestamp}
    {batch : ConfirmObservedPaymentsBatch} {records : List PaymentRecord} (h : PaidInv db)
    (hc : confirmObservedPayments db now batch = .ok (records, db')) : PaidInv db' := by
  obtain ⟨orderIds, hids, -, rfl⟩ := confirmObservedPayments_eq_ok hc
  refine h.of_updateWhere (f := confirmRow batch.canonicalHead) (fun _ => rfl) rfl rfl rfl hids
    (fun id => (h.covered id).trans ?_)
  refine totalWhere_le_updateWhere (fun p _ hsel => ?_) (fun _ _ _ => Nat.le_refl _)
  -- a row the update selects is observed, so it adds nothing yet
  have hobs : p.chainStatus = .observed := by
    simp only [confirmSelects, PaymentRecord.isObservedOf, Bool.and_eq_true,
      decide_eq_true_eq] at hsel
    exact hsel.1.2.2
  unfold PaymentRecord.share
  rw [if_neg (by simp [PaymentRecord.isConfirmedProblem, hobs])]
  exact Nat.zero_le _

/-- A rewind that leaves the overrides covered. -/
theorem PaidInv.of_reorg {db db' : PaymentDb} {now : Timestamp} {stream : StreamId}
    {epoch lastReorgFrom : ℕ} (h : PaidInv db)
    (hr : handleKvReorgEpoch db now stream epoch lastReorgFrom = .ok db')
    (hcov : ∀ ov ∈ db.overrides, ov.acceptedProblemPaymentRaw.toNat ≤ totalWhere
      (fun p => p.isConfirmedProblem &&
        (PaymentOp.handleKvReorgEpoch stream epoch lastReorgFrom).leaves db p)
      db.payments ov.orderId) : PaidInv db' := by
  obtain ⟨c, hcur, ⟨-, rfl⟩ | ⟨hseen, orderIds, hids, -, rfl⟩⟩ := handleKvReorgEpoch_eq_ok hr
  · exact h
  · refine h.of_updateWhere (f := orphanRow) (fun _ => rfl) rfl rfl rfl hids (fun id => ?_)
    refine (acceptedProblemPayment_le hcov id).trans (totalWhere_le_updateWhere ?_ ?_)
    · intro p _ hsel
      unfold PaymentRecord.share
      rw [if_neg (by simp [PaymentOp.leaves, hcur, hseen, hsel])]
      exact Nat.zero_le _
    · intro p _ _
      unfold PaymentRecord.share
      by_cases hc : p.orderId = id ∧ p.isConfirmedProblem = true
      · rw [if_pos hc]
        split
        · exact Nat.le_refl _
        · exact Nat.zero_le _
      · rw [if_neg hc, if_neg (fun hc' => hc ⟨hc'.1, (Bool.and_eq_true _ _ ▸ hc'.2).1⟩)]

/-- An acceptance writes down exactly what is confirmed. -/
theorem PaidInv.of_accept {db db' : PaymentDb} {now : Timestamp} {id : Uuid}
    {ownerSub acceptedBy : String} {reason : Option String} {answer : Option OrderRecord}
    (h : PaidInv db)
    (ha : acceptProblemPaymentForOwner db now id ownerSub acceptedBy reason = .ok (answer, db')) :
    PaidInv db' := by
  obtain ⟨-, rfl⟩ | ⟨ov, rfl, -, -, hraw, -, rfl⟩ := acceptProblemPaymentForOwner_eq_ok ha
  · exact h
  · have hother : ∀ id, id ≠ ov.orderId →
        acceptedProblemPayment (upsertBy OrderPaymentOverride.orderId ov db.overrides) id
          = acceptedProblemPayment db.overrides id := by
      intro id hne
      unfold acceptedProblemPayment
      rw [find?_upsertBy_of_ne _ _ _ (fun hc => hne hc.symm)]
    refine ⟨settled_recomputed (fun o ho hid => ?_), fun id => ?_⟩
    · exact (h.settled o ho).of_totals rfl (hother o.id (by simpa using hid))
    · show acceptedProblemPayment (upsertBy OrderPaymentOverride.orderId ov db.overrides) id
        ≤ confirmedProblemTotal db.payments id
      by_cases hid : id = ov.orderId
      · subst hid
        unfold acceptedProblemPayment
        rw [find?_upsertBy_self]
        exact Nat.le_of_eq hraw
      · rw [hother id hid]
        exact h.covered id

/-- **One transaction** that leaves the overrides covered keeps the invariant. -/
theorem PaidInv.step {db db' : PaymentDb} {a : Timestamp × PaymentOp} (h : PaidInv db)
    (hcov : CoversAccepted db a) (hs : paymentStep db a = some db') : PaidInv db' := by
  obtain ⟨now, op⟩ := a
  unfold paymentStep at hs
  dsimp only at hs
  cases hrun : runPaymentOp db now op with
  | error e =>
    rw [hrun] at hs
    exact Option.some.inj hs ▸ h
  | ok db₁ =>
    rw [hrun] at hs
    obtain rfl := Option.some.inj hs
    have hcov' := hcov (by rw [hrun]; rfl)
    cases op with
    | claimScanRange workerId stream leaseUntil =>
      obtain ⟨⟨answer, db₂⟩, hc, rfl⟩ := Except.map_eq_ok.mp hrun
      obtain ⟨-, rfl⟩ | ⟨c, -, -, rfl⟩ := claimScanRange_eq_ok hc
      · exact h
      · exact ⟨h.settled, h.covered⟩
    | commitScannedBatch batch =>
      obtain ⟨⟨records, db₂⟩, hc, rfl⟩ := Except.map_eq_ok.mp hrun
      obtain ⟨c, db₃, -, -, -, -, -, hup, -, rfl⟩ := commitScannedBatch_eq_ok hc
      have hinv : PaidInv (db₃.recomputed now (sortedSet (records.map PaymentRecord.orderId))) :=
        h.of_upserts hup (fun r hr => mem_sortedSet.mpr (List.mem_map_of_mem hr)) hcov'
      exact ⟨hinv.settled, hinv.covered⟩
    | confirmObservedPayments batch =>
      obtain ⟨⟨records, db₂⟩, hc, rfl⟩ := Except.map_eq_ok.mp hrun
      exact h.of_confirm hc
    | recordVerifiedPayments orderId ps =>
      obtain ⟨⟨records, db₂⟩, hc, rfl⟩ := Except.map_eq_ok.mp hrun
      obtain ⟨hall, written, db₃, hup, -, rfl⟩ := recordVerifiedPayments_eq_ok hc
      exact h.of_upserts hup (fun r hr => mem_sortedSet.mpr
        (List.mem_singleton.mpr (orderId_of_mem_upserts hup hr (by simpa using hall)))) hcov'
    | handleKvReorgEpoch stream epoch lastReorgFrom => exact h.of_reorg hrun hcov'
    | acceptProblemPayment id ownerSub acceptedBy reason =>
      obtain ⟨⟨answer, db₂⟩, hc, rfl⟩ := Except.map_eq_ok.mp hrun
      exact h.of_accept hc
    | recomputeExpiredOpenOrders databaseNow limit =>
      obtain ⟨⟨count, db₂⟩, hc, rfl⟩ := Except.map_eq_ok.mp hrun
      obtain ⟨orderIds, -, rfl⟩ := recomputeExpiredOpenOrders_eq_ok hc
      exact ⟨settled_recomputed (fun o ho _ => h.settled o ho), h.covered⟩

/-! ## Every run -/

/-- **Paid means paid**, in every state reached from fresh orders, as long as
every transaction leaves the overrides covered. -/
theorem paidMeansPaid_of_run {db db' : PaymentDb} {ops : List (Timestamp × PaymentOp)}
    (hfresh : db.Fresh) (hcov : StepsMeet paymentStep CoversAccepted db ops)
    (hr : runSteps paymentStep db ops = some db') : db'.PaidMeansPaid :=
  (inv_of_run (I := PaidInv) (fun _ _ _ h hc hs => h.step hc hs) hfresh.paidInv hcov
    hr).paidMeansPaid

namespace LatePayment

/-- One order of 100, due at time 10 and watched until 20. -/
def order : OrderRecord where
  id := 1
  ownerSub := "merchant"
  childAccountId := 2
  receiveAddress := 3
  chainId := 1
  tokenAddress := 4
  expectedAmountRaw := 100
  paidAmountRaw := 0
  status := .pending
  expiresAt := 10
  monitorUntil := 20

/-- The order with its window, and a cursor the worker has leased. -/
def db : PaymentDb where
  orders := [order]
  windows := [⟨1, 3, ⟨1, 0⟩, 10, 20⟩]
  overrides := []
  payments := []
  cursors := [⟨1, 4, 0, 0, some "scanner", some 50⟩]

/-- The whole amount, five time units late, in block 5. -/
def latePayment : MatchedPaymentInput where
  id := 9
  orderId := 1
  childAccountId := 2
  chainId := 1
  tokenAddress := 4
  txHash := 7
  logIndex := 0
  fromAddress := 8
  toAddress := 3
  amountRaw := 100
  blockNumber := 5
  blockHash := 55
  blockTime := 15
  confirmations := 12
  matchStatus := .late
  chainStatus := .confirmed

/-- The late payment is scanned and accepted, and then the chain is
reorganised from the given block on. -/
def acceptedThenReorganisedFrom (block : ℕ) : List (Timestamp × PaymentOp) :=
  [(16, .commitScannedBatch ⟨⟨1, 4⟩, "scanner", 0, 6, 0, [latePayment]⟩),
   (17, .acceptProblemPayment 1 "merchant" "operator" none),
   (18, .handleKvReorgEpoch ⟨1, 4⟩ 1 block)]

theorem db_fresh : db.Fresh := ⟨rfl, rfl, by decide⟩

end LatePayment

/-- A late payment that stays confirmed is a good one to accept: the rewind
above it leaves the order paid in full. -/
theorem paidMeansPaid_of_accepted :
    ∃ db', runSteps paymentStep LatePayment.db (LatePayment.acceptedThenReorganisedFrom 6)
        = some db' ∧ db'.orders.map OrderRecord.status = [.paid] ∧ db'.PaidMeansPaid := by
  have hpaid : (runSteps paymentStep LatePayment.db
      (LatePayment.acceptedThenReorganisedFrom 6)).map (fun d => d.orders.map OrderRecord.status)
      = some [.paid] := by decide
  obtain ⟨db', hr, hstatus⟩ := Option.map_eq_some_iff.mp hpaid
  exact ⟨db', hr, hstatus,
    paidMeansPaid_of_run LatePayment.db_fresh (by decide) hr⟩

/-- **An orphaned payment keeps its order paid**: once the accepted payment is
reorganised away, the order is still credited with it. -/
theorem paidMeansPaid_fails :
    ¬ ∀ (db db' : PaymentDb) (ops : List (Timestamp × PaymentOp)), db.Fresh →
      runSteps paymentStep db ops = some db' → db'.PaidMeansPaid := by
  intro hall
  have hbad : (runSteps paymentStep LatePayment.db
      (LatePayment.acceptedThenReorganisedFrom 5)).any (fun d => decide (¬ d.PaidMeansPaid))
      = true := by decide
  obtain ⟨db', hr, hunpaid⟩ := (Option.any_eq_true _ _).mp hbad
  exact of_decide_eq_true hunpaid (hall _ _ _ LatePayment.db_fresh hr)
