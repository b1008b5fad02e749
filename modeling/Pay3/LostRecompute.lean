import Pay3.RecomputeTransactions
import Pay3.Runs

/-!
# When a recompute is lost

An order is recomputed by every transaction that changes a payment of it, and
the recomputes of one order are kept apart by the lock on its row. So what a
transaction writes to the order counts its own payments; whether it counts
those of the transaction before it depends on when its sums were read. They
are read from the snapshot of the statement that also waits for the lock, and
that snapshot is older than the commit it has waited for.

What holds is this. From the moment a transaction has the lock of an order
until it commits, no other transaction commits a payment of the order, since
it would need the lock. If the sums are those of the committed payments when
the lock is obtained, they still are when the order is written.
-/

/-! ## The property and the condition -/

/-- **The sums are current** when the next order is locked: the payments of that
order in the snapshot add up to what those the transaction would see now do. -/
def TxPc.SumsCurrent (payments : List PaymentRecord) : TxPc → Prop
  | .summing snapshot _ (id :: _) => SameTotals snapshot.payments payments id
  | _ => True

instance (payments : List PaymentRecord) : (pc : TxPc) → Decidable (pc.SumsCurrent payments)
  | .summing snapshot _ (id :: _) =>
    inferInstanceAs (Decidable (SameTotals snapshot.payments payments id))
  | .summing _ _ [] | .running _ | .updating _ _ _ | .storing _ _ | .finishing _ _ =>
    inferInstanceAs (Decidable True)

namespace TxSystem

/-- The condition on a step. -/
def SumsCurrent (s : TxSystem) : TxAction → Prop
  | .advance t _ _ => ∀ x ∈ s.tx t, x.pc.SumsCurrent (x.view s.db).payments
  | _ => True

instance (s : TxSystem) : (a : TxAction) → Decidable (s.SumsCurrent a)
  | .advance t _ _ =>
    inferInstanceAs (Decidable (∀ x ∈ s.tx t, x.pc.SumsCurrent (x.view s.db).payments))
  | .begin _ _ | .abort _ => inferInstanceAs (Decidable True)

/-- **No recompute is lost.** The row of an order is the one a recompute over all
committed payments and the committed override writes, at the clock of the last
one; an order that was never recomputed has its row and its totals as they
were at the start. -/
def NoLostRecompute (start s : TxSystem) : Prop :=
  ∀ o ∈ s.db.orders,
    match s.recomputedAt o.id with
    | some now => o = recomputedOrder s.db.payments s.db.overrides now o
    | none => o ∈ start.db.orders
      ∧ ∀ q, totalWhere q s.db.payments o.id = totalWhere q start.db.payments o.id

/-- The initial states: no transaction is under way, and the key of a payment
and the id of an order are unique. -/
structure Initial (s : TxSystem) : Prop where
  idle : ∀ t, s.tx t = none
  unlocked : ∀ l, s.locks l = none
  unrecomputed : ∀ id, s.recomputedAt id = none
  ids : (s.db.orders.map OrderRecord.id).Nodup
  keys : (s.db.payments.map PaymentRecord.key).Nodup

end TxSystem

/-! ## Totals under uncommitted rows -/

/-- Rows with one key are of one order. -/
def SameOrder (rows : List PaymentRecord) : Prop :=
  ∀ p ∈ rows, ∀ q ∈ rows, p.key = q.key → p.orderId = q.orderId

/-- Leaving out rows of other orders changes no total. -/
theorem totalWhere_filter_of_ne {q p : PaymentRecord → Bool} {rows : List PaymentRecord}
    {orderId : Uuid} (h : ∀ r ∈ rows, p r = false → r.orderId ≠ orderId) :
    totalWhere q (rows.filter p) orderId = totalWhere q rows orderId := by
  unfold totalWhere
  rw [List.filter_filter]
  refine congrArg (fun rs => (List.map _ rs).sum) (List.filter_congr (fun r hr => ?_))
  cases hp : p r with
  | true => rw [Bool.and_true]
  | false =>
    have hne : decide (r.orderId = orderId) = false := decide_eq_false (h r hr hp)
    rw [hne, Bool.false_and, Bool.false_and]

/-- **Committed rows of other orders change no total** of a transaction's view. -/
theorem totalWhere_overlay_overlay (q : PaymentRecord → Bool)
    {base writes : List PaymentRecord} (own : List PaymentRecord) {orderId : Uuid}
    (hkeyed : SameOrder (base ++ writes)) (hne : ∀ w ∈ writes, w.orderId ≠ orderId) :
    totalWhere q (overlay PaymentRecord.key (overlay PaymentRecord.key base writes) own) orderId
      = totalWhere q (overlay PaymentRecord.key base own) orderId := by
  have hwrites : totalWhere q (writes.filter
      (fun r => own.all (fun w => decide (w.key ≠ r.key)))) orderId = 0 :=
    totalWhere_eq_zero (fun r hr => hne r (List.mem_of_mem_filter hr))
  unfold overlay
  rw [totalWhere_append, List.filter_append, totalWhere_append, hwrites, Nat.add_zero,
    totalWhere_append, List.filter_comm]
  refine congrArg (fun n => n + _) (totalWhere_filter_of_ne (fun r hr hout => ?_))
  -- a row left out has the key of a write, and so its order
  have hkey : ¬ ∀ w ∈ writes, w.key ≠ r.key := by
    intro hall
    rw [List.all_eq_true.mpr (fun w hw => by simpa using hall w hw)] at hout
    cases hout
  push Not at hkey
  obtain ⟨w, hw, hkw⟩ := hkey
  have hsame := hkeyed w (List.mem_append_right base hw) r
    (List.mem_append_left writes (List.mem_of_mem_filter hr)) hkw
  exact hsame ▸ hne w hw

/-- The same for what is committed. -/
theorem totalWhere_overlay (q : PaymentRecord → Bool) {base writes : List PaymentRecord}
    {orderId : Uuid} (hkeyed : SameOrder (base ++ writes))
    (hne : ∀ w ∈ writes, w.orderId ≠ orderId) :
    totalWhere q (overlay PaymentRecord.key base writes) orderId = totalWhere q base orderId := by
  have h := totalWhere_overlay_overlay q [] hkeyed hne
  rwa [overlay_nil, overlay_nil] at h

/-! ## What a transaction keeps -/

/-- The statement locks the cursor. -/
def Statement.isLock : Statement → Bool
  | .lockCursor _ _ => true
  | _ => false

/-- **A row to be written to an order**: its order is locked, and it is what a
recompute over the payments the transaction sees writes. -/
def RecomputedIn (db : PaymentDb) (locks : RowLocks LockedRow) (t : ℕ) (x : TxState)
    (now : Timestamp) (r : OrderRecord) : Prop :=
  locks (.order r.id) = some t
    ∧ ∃ c ∈ db.orders, r = recomputedOrder (x.view db).payments db.overrides now c

/-- **What is settled at each point of a transaction.** -/
def TxPc.Settled (db : PaymentDb) (locks : RowLocks LockedRow) (t : ℕ) (x : TxState) :
    TxPc → Prop
  | .running todo => x.orders = [] ∧ (∀ st ∈ todo, st ∈ x.call.statements)
      ∧ (∀ st ∈ todo.tail, st.isLock = false) ∧ ∀ st ∈ todo, st.isLock = true → x.payments = []
  | .updating u _ todo => x.orders = [] ∧ .update u ∈ x.call.statements
      ∧ (∀ st ∈ todo, st ∈ x.call.statements) ∧ ∀ st ∈ todo, st.isLock = false
  | .summing snapshot locked pending => x.orders = [] ∧ snapshot.overrides = db.overrides
      ∧ locked ++ pending = x.call.orderIds x.affected
      ∧ ∀ id ∈ locked, locks (.order id) = some t
        ∧ SameTotals snapshot.payments (x.view db).payments id
  | .storing now rows => (∀ r ∈ rows ++ x.orders, RecomputedIn db locks t x now r)
      ∧ ∀ w ∈ x.payments, w.orderId ∈ (rows ++ x.orders).map OrderRecord.id
  | .finishing now _ => (∀ r ∈ x.orders, RecomputedIn db locks t x now r)
      ∧ ∀ w ∈ x.payments, w.orderId ∈ x.orders.map OrderRecord.id

/-- **What a transaction has written**: payments it has locked, of the order their
keys had before, and of orders it will recompute. -/
structure WritesInv (db : PaymentDb) (locks : RowLocks LockedRow) (t : ℕ) (x : TxState) :
    Prop where
  accepted : x.call.check = .ok ()
  held : ∀ w ∈ x.payments, locks (.payment w.key) = some t
  keyed : SameOrder (db.payments ++ x.payments)
  covered : ∀ w ∈ x.payments, w.orderId ∈ x.call.orderIds x.affected

/-- **The invariant of a transaction.** -/
structure TxInv (db : PaymentDb) (locks : RowLocks LockedRow) (t : ℕ) (x : TxState) : Prop
    extends WritesInv db locks t x where
  settled : x.pc.Settled db locks t x

/-- What is settled depends on the orders a transaction has locked: on their
totals in its view, and on the rows it will write to them. -/
theorem TxPc.Settled.transfer {db db' : PaymentDb} {locks locks' : RowLocks LockedRow} {t : ℕ}
    {x : TxState} {pc : TxPc} (h : pc.Settled db locks t x)
    (hover : db'.overrides = db.overrides)
    (hlocked : ∀ id, locks (.order id) = some t → locks' (.order id) = some t
      ∧ SameTotals (x.view db).payments (x.view db').payments id)
    (hrow : ∀ now r, RecomputedIn db locks t x now r → RecomputedIn db' locks' t x now r) :
    pc.Settled db' locks' t x := by
  cases pc with
  | running todo => exact h
  | updating u keys todo => exact h
  | summing snapshot locked pending =>
    obtain ⟨horders, hsnapshot, hids, htotals⟩ := h
    refine ⟨horders, hsnapshot.trans hover.symm, hids, fun id hid => ?_⟩
    obtain ⟨hl, hsum⟩ := htotals id hid
    obtain ⟨hl', hsame⟩ := hlocked id hl
    exact ⟨hl', hsum.1.trans hsame.1, hsum.2.trans hsame.2⟩
  | storing now rows => exact ⟨fun r hr => hrow now r (h.1 r hr), h.2⟩
  | finishing now todo => exact ⟨fun r hr => hrow now r (h.1 r hr), h.2⟩

/-- More locks of its own take nothing from a transaction. -/
theorem TxInv.mono {db : PaymentDb} {locks locks' : RowLocks LockedRow} {t : ℕ} {x : TxState}
    (h : TxInv db locks t x) (hlocks : ∀ l, locks l = some t → locks' l = some t) :
    TxInv db locks' t x := by
  refine ⟨⟨h.accepted, fun w hw => hlocks _ (h.held w hw), h.keyed, h.covered⟩, ?_⟩
  refine h.settled.transfer rfl (fun id hid => ⟨hlocks _ hid, rfl, rfl⟩) (fun now r hr => ?_)
  exact ⟨hlocks _ hr.1, hr.2⟩

/-- A transaction that has just begun. -/
theorem TxInv.started {db : PaymentDb} (locks : RowLocks LockedRow) (t : ℕ)
    {call : RepositoryCall} (hkeyed : SameOrder db.payments) (hcheck : call.check = .ok ()) :
    TxInv db locks t (.started call) := by
  refine ⟨⟨hcheck, fun w hw => absurd hw List.not_mem_nil, ?_,
    fun w hw => absurd hw List.not_mem_nil⟩, rfl, fun st hst => hst, ?_, fun _ _ _ => rfl⟩
  · rw [show (TxState.started call).payments = [] from rfl, List.append_nil]
    exact hkeyed
  · intro st hst
    cases call with
    | commitScannedBatch batch =>
      obtain ⟨p, -, rfl⟩ := List.mem_map.mp hst
      rfl
    | confirmObservedPayments batch => exact absurd hst List.not_mem_nil
    | handleKvReorgEpoch stream epoch lastReorgFrom =>
      rcases List.mem_cons.mp hst with rfl | hst
      · rfl
      · obtain rfl := List.mem_singleton.mp hst
        rfl
    | recordVerifiedPayments orderId matchedPayments =>
      obtain ⟨p, -, rfl⟩ := List.mem_map.mp (List.mem_of_mem_tail hst)
      rfl

/-! ## Steps of a transaction -/

/-- An order among those to recompute stays among them. -/
theorem RepositoryCall.mem_orderIds_cons {call : RepositoryCall} {affected : List Uuid}
    {id : Uuid} (h : id ∈ call.orderIds affected) (other : Uuid) :
    id ∈ call.orderIds (other :: affected) := by
  cases call with
  | recordVerifiedPayments orderId matchedPayments => exact h
  | _ => exact mem_sortedSet.mpr (List.mem_cons_of_mem other (mem_sortedSet.mp h))

/-- **One more payment is written**: over a row of its own order, or where there is
none. -/
theorem WritesInv.write {db : PaymentDb} {locks : RowLocks LockedRow} {t : ℕ} {x : TxState}
    (h : WritesInv db locks t x) {record : PaymentRecord}
    (hold : ∀ old, (x.view db).payments.find? (fun p => decide (p.key = record.key)) = some old →
      old.orderId = record.orderId)
    (hlocked : locks (.payment record.key) = some t)
    (hcovered : record.orderId ∈ x.call.orderIds (record.orderId :: x.affected)) :
    WritesInv db locks t (x.write record) := by
  -- every row with the key of the record has its order
  have hsame : ∀ r ∈ db.payments ++ x.payments, r.key = record.key →
      r.orderId = record.orderId := by
    intro r hr hk
    cases hf : (x.view db).payments.find? (fun p => decide (p.key = record.key)) with
    | none => exact absurd hk (find?_overlay_eq_none hf r hr)
    | some old =>
      have hold' := hold old hf
      obtain ⟨hmem, hkey⟩ := mem_of_find?_key hf
      have hin : old ∈ db.payments ++ x.payments := by
        rcases mem_overlay.mp hmem with ⟨hbase, -⟩ | hown
        · exact List.mem_append_left _ hbase
        · exact List.mem_append_right _ hown
      exact (h.keyed r hr old hin (hk.trans hkey.symm)).trans hold'
  have hmem : ∀ r ∈ db.payments ++ (x.write record).payments,
      r = record ∨ r ∈ db.payments ++ x.payments := by
    intro r hr
    rcases List.mem_append.mp hr with hbase | hown
    · exact Or.inr (List.mem_append_left _ hbase)
    · exact (mem_of_mem_upsertBy hown).imp id (List.mem_append_right _)
  refine ⟨h.accepted, fun w hw => ?_, fun p hp q hq hk => ?_, fun w hw => ?_⟩
  · rcases mem_of_mem_upsertBy hw with rfl | hw
    · exact hlocked
    · exact h.held w hw
  · rcases hmem p hp with rfl | hp'
    · rcases hmem q hq with rfl | hq'
      · rfl
      · exact (hsame q hq' hk.symm).symm
    · rcases hmem q hq with rfl | hq'
      · exact hsame p hp' hk
      · exact h.keyed p hp' q hq' hk
  · rcases mem_of_mem_upsertBy hw with rfl | hw
    · exact hcovered
    · exact RepositoryCall.mem_orderIds_cons (h.covered w hw) _

/-- **What a step of a transaction must leave**: a lock it could get, and the
invariant. -/
def GoesOn (db : PaymentDb) (locks : RowLocks LockedRow) (t : ℕ) (lock : Option LockedRow)
    (x' : TxState) : Prop :=
  (∀ l ∈ lock, locks.isFree t l = true)
    ∧ TxInv db (lock.elim locks (fun l => locks.acquire t l)) t x'

section steps

variable {db : PaymentDb} {locks : RowLocks LockedRow} {t row : ℕ} {now : Timestamp}
  {x x' : TxState} {lock : Option LockedRow}

/-- A step without a lock. -/
theorem GoesOn.of_inv (h : TxInv db locks t x') : GoesOn db locks t none x' :=
  ⟨fun _ hl => absurd hl (by simp), h⟩

/-- A lock that is free takes nothing from the writes of a transaction. -/
theorem WritesInv.acquire (h : WritesInv db locks t x) {l : LockedRow}
    (hfree : locks.isFree t l = true) : WritesInv db (locks.acquire t l) t x :=
  ⟨h.accepted, fun w hw => RowLocks.held_of_acquire hfree (h.held w hw), h.keyed, h.covered⟩

/-- Going to another point changes nothing that is written. -/
theorem WritesInv.goto (h : WritesInv db locks t x) (pc : TxPc) :
    WritesInv db locks t (x.goto pc) :=
  ⟨h.accepted, h.held, h.keyed, h.covered⟩

/-- An upsert of the transaction is covered by its recompute. -/
theorem covered_of_upsert {call : RepositoryCall} {stream : StreamId}
    {payment : MatchedPaymentInput} (hst : .upsert stream payment ∈ call.statements)
    (hcheck : call.check = .ok ()) (affected : List Uuid) :
    payment.orderId ∈ call.orderIds (payment.orderId :: affected) := by
  cases call with
  | recordVerifiedPayments orderId matchedPayments =>
    obtain ⟨p, hp, heq⟩ := List.mem_map.mp hst
    obtain ⟨-, rfl⟩ := Statement.upsert.inj heq
    have hall : ∀ p ∈ matchedPayments, p.orderId = orderId := by
      simpa [RepositoryCall.check] using hcheck
    exact mem_sortedSet.mpr (List.mem_singleton.mpr (hall p hp))
  | _ => exact mem_sortedSet.mpr List.mem_cons_self

/-- So is an update, which a verification does not make. -/
theorem covered_of_update {call : RepositoryCall} {u : PaymentUpdate}
    (hst : .update u ∈ call.statements) (id : Uuid) (affected : List Uuid) :
    id ∈ call.orderIds (id :: affected) := by
  cases call with
  | recordVerifiedPayments orderId matchedPayments =>
    obtain ⟨p, -, heq⟩ := List.mem_map.mp hst
    cases heq
  | _ => exact mem_sortedSet.mpr List.mem_cons_self

/-- What is left of the statements of a transaction. -/
theorem settled_of_tail {st : Statement} {todo : List Statement}
    (h : (TxPc.running (st :: todo)).Settled db locks t x) :
    x.orders = [] ∧ (∀ st ∈ todo, st ∈ x.call.statements) ∧ ∀ st ∈ todo, st.isLock = false :=
  ⟨h.1, fun st' hst' => h.2.1 st' (List.mem_cons_of_mem st hst'), h.2.2.1⟩

/-- A transaction at the statements that are left. -/
theorem settled_running {todo : List Statement} (horders : x.orders = [])
    (hmem : ∀ st ∈ todo, st ∈ x.call.statements) (hlock : ∀ st ∈ todo, st.isLock = false) :
    (TxPc.running todo).Settled db locks t x := by
  refine ⟨horders, hmem, fun st hst => hlock st (List.mem_of_mem_tail hst), fun st hst hl => ?_⟩
  rw [hlock st hst] at hl
  cases hl

/-- A statement before the recompute. -/
theorem goesOn_runStatement {st : Statement} {todo : List Statement} (h : TxInv db locks t x)
    (hpc : x.pc = .running (st :: todo))
    (hgo : runStatement db (fun l => locks.isFree t l) now x todo st = .goes lock x') :
    GoesOn db locks t lock x' := by
  have hsettled := h.settled
  rw [hpc] at hsettled
  obtain ⟨horders, hmem, hlock⟩ := settled_of_tail hsettled
  cases st with
  | lockCursor stream check =>
    simp only [runStatement] at hgo
    split at hgo
    next hfree =>
      have hinv := h.toWritesInv.acquire hfree
      split at hgo
      · cases hgo
      · split at hgo
        · obtain ⟨rfl, rfl⟩ := TxResult.goes.inj hgo
          refine ⟨fun l hl => Option.some.inj hl ▸ hfree, hinv.goto _, ?_⟩
          exact settled_running horders hmem hlock
        · -- the epoch has been seen: nothing is written yet, and nothing will be
          obtain ⟨rfl, rfl⟩ := TxResult.goes.inj hgo
          have hnone : x.payments = [] := hsettled.2.2.2 _ List.mem_cons_self rfl
          refine ⟨fun l hl => Option.some.inj hl ▸ hfree, hinv.goto _, fun r hr => ?_,
            fun w hw => ?_⟩
          · rw [TxState.goto_orders, horders] at hr
            exact absurd hr List.not_mem_nil
          · rw [TxState.goto_payments, hnone] at hw
            exact absurd hw List.not_mem_nil
        · cases hgo
    · cases hgo
  | upsert stream payment =>
    simp only [runStatement] at hgo
    split at hgo
    next hfree =>
      split at hgo
      · cases hgo
      next record db₁ hup =>
        obtain ⟨rfl, rfl⟩ := TxResult.goes.inj hgo
        obtain ⟨o, w, how, -, hrecord, hfound⟩ := upsertMatchedPaymentTx_eq_ok hup
        obtain ⟨-, hoid, hoc, -⟩ := PaymentDb.matchedOrder_eq_some how
        have hkey : record.key = (stream.chainId, payment.txHash, payment.logIndex) := by
          rw [hrecord]
          exact congrArg (fun c => (c, payment.txHash, payment.logIndex)) hoc
        have horder : record.orderId = payment.orderId := by
          rw [hrecord]
          exact hoid
        have hst : Statement.upsert stream payment ∈ x.call.statements :=
          hsettled.2.1 _ List.mem_cons_self
        refine ⟨fun l hl => Option.some.inj hl ▸ hfree, ?_, ?_⟩
        · refine ((h.toWritesInv.acquire hfree).write (fun old hold => ?_) ?_ ?_).goto _
          · rcases hfound with ⟨old', hold', hsame, -⟩ | ⟨hnone, -⟩
            · obtain rfl : old' = old := Option.some.inj (hold'.symm.trans hold)
              simp only [sameTarget, Bool.and_eq_true, decide_eq_true_eq] at hsame
              exact hsame.1.1.1
            · rw [hnone] at hold
              cases hold
          · rw [hkey]
            exact RowLocks.acquire_self locks t _
          · rw [horder]
            exact covered_of_upsert hst h.accepted x.affected
        · exact settled_running horders hmem hlock
    · cases hgo
  | update u =>
    obtain ⟨rfl, rfl⟩ := TxResult.goes.inj hgo
    exact .of_inv ⟨h.toWritesInv.goto _, horders, hsettled.2.1 _ List.mem_cons_self, hmem, hlock⟩
  | moveCursor write =>
    simp only [runStatement] at hgo
    split at hgo
    · obtain ⟨rfl, rfl⟩ := TxResult.goes.inj hgo
      exact .of_inv ⟨h.toWritesInv.goto _, settled_running horders hmem hlock⟩
    · obtain ⟨rfl, rfl⟩ := TxResult.goes.inj hgo
      exact .of_inv ⟨⟨h.accepted, h.held, h.keyed, h.covered⟩,
        settled_running horders hmem hlock⟩

/-- A row of an `UPDATE payments`. -/
theorem goesOn_updateRow {u : PaymentUpdate} {key : ℕ × TxHash × ℕ}
    {all keys : List (ℕ × TxHash × ℕ)} {todo : List Statement} (h : TxInv db locks t x)
    (hpc : x.pc = .updating u all todo)
    (hgo : updateRow db (fun l => locks.isFree t l) x u key keys todo = .goes lock x') :
    GoesOn db locks t lock x' := by
  have hsettled := h.settled
  rw [hpc] at hsettled
  obtain ⟨horders, hu, hmem, hlock⟩ := hsettled
  unfold updateRow at hgo
  split at hgo
  next hfree =>
    split at hgo
    · obtain ⟨rfl, rfl⟩ := TxResult.goes.inj hgo
      exact .of_inv ⟨h.toWritesInv.goto _, horders, hu, hmem, hlock⟩
    next p hp =>
      split at hgo
      · obtain ⟨rfl, rfl⟩ := TxResult.goes.inj hgo
        have hkey : (u.row p).key = key := (u.row_key p).trans (mem_of_find?_key hp).2
        refine ⟨fun l hl => Option.some.inj hl ▸ hfree, ?_, horders, hu, hmem, hlock⟩
        refine ((h.toWritesInv.acquire hfree).write (fun old hold => ?_) ?_ ?_).goto _
        · rw [hkey, hp] at hold
          rw [← Option.some.inj hold]
          exact (u.row_orderId p).symm
        · rw [hkey]
          exact RowLocks.acquire_self locks t _
        · exact covered_of_update hu _ _
      · obtain ⟨rfl, rfl⟩ := TxResult.goes.inj hgo
        exact .of_inv ⟨h.toWritesInv.goto _, horders, hu, hmem, hlock⟩
  · cases hgo

/-- The recompute begins. -/
theorem goesOn_beginRecompute (h : TxInv db locks t x) (hpc : x.pc = .running [])
    (hgo : beginRecompute db now x = .goes lock x') : GoesOn db locks t lock x' := by
  have hsettled := h.settled
  rw [hpc] at hsettled
  unfold beginRecompute at hgo
  dsimp only at hgo
  split at hgo
  next hempty =>
    obtain ⟨rfl, rfl⟩ := TxResult.goes.inj hgo
    refine .of_inv ⟨h.toWritesInv.goto _, fun r hr => ?_, fun w hw => ?_⟩
    · rw [TxState.goto_orders, hsettled.1] at hr
      exact absurd hr List.not_mem_nil
    · have hcov := h.covered w hw
      rw [List.isEmpty_iff.mp hempty] at hcov
      exact absurd hcov List.not_mem_nil
  · obtain ⟨rfl, rfl⟩ := TxResult.goes.inj hgo
    exact .of_inv ⟨h.toWritesInv.goto _, hsettled.1, rfl, rfl,
      fun id hid => absurd hid List.not_mem_nil⟩

/-- The ids of as many orders as there are ids are all of them. -/
theorem mem_ids_of_length {orders : List OrderRecord} (hids : (orders.map OrderRecord.id).Nodup)
    {ids : List Uuid}
    (hlen : (orders.filter (fun o => decide (o.id ∈ ids))).length = ids.length) {id : Uuid}
    (hid : id ∈ ids) :
    id ∈ (orders.filter (fun o => decide (o.id ∈ ids))).map OrderRecord.id := by
  have hnd : ((orders.filter (fun o => decide (o.id ∈ ids))).map OrderRecord.id).Nodup :=
    hids.sublist (List.filter_sublist.map _)
  have hsub : (orders.filter (fun o => decide (o.id ∈ ids))).map OrderRecord.id ⊆ ids := by
    intro i hi
    obtain ⟨o, ho, rfl⟩ := List.mem_map.mp hi
    simpa using (List.mem_filter.mp ho).2
  have hperm := (List.subperm_of_subset hnd hsub).perm_of_length_le
    (by rw [List.length_map, hlen])
  exact hperm.mem_iff.mpr hid

/-- The `SELECT` of the recompute ends: its rows are what a recompute over the
payments the transaction sees writes. -/
theorem goesOn_finishSelect {snapshot : PaymentDb} {locked : List Uuid} (h : TxInv db locks t x)
    (hids : (db.orders.map OrderRecord.id).Nodup) (hpc : x.pc = .summing snapshot locked [])
    (hgo : finishSelect db now x snapshot locked = .goes lock x') : GoesOn db locks t lock x' := by
  have hsettled := h.settled
  rw [hpc] at hsettled
  obtain ⟨horders, hover, hall, hlocked⟩ := hsettled
  rw [List.append_nil] at hall
  unfold finishSelect at hgo
  have hview : (x.view db).orders = db.orders := by
    show replaceRows OrderRecord.id db.orders x.orders = db.orders
    rw [horders, replaceRows_nil]
  rw [hview] at hgo
  dsimp only at hgo
  split at hgo
  · cases hgo
  next hlen =>
    split at hgo
    · obtain ⟨rfl, rfl⟩ := TxResult.goes.inj hgo
      refine .of_inv ⟨h.toWritesInv.goto _, fun r hr => ?_, fun w hw => ?_⟩
      · rw [TxState.goto_orders, horders, List.append_nil] at hr
        obtain ⟨c, hc, rfl⟩ := List.mem_map.mp hr
        obtain ⟨hc, hin⟩ := List.mem_filter.mp hc
        obtain ⟨hheld, htotals⟩ := hlocked c.id (of_decide_eq_true hin)
        refine ⟨hheld, c, hc, ?_⟩
        rw [hover]
        exact recomputedOrder_congr htotals db.overrides now
      · rw [TxState.goto_orders, horders, List.append_nil, List.map_map]
        have hcov : w.orderId ∈ locked := hall ▸ h.covered w hw
        exact mem_ids_of_length hids (not_ne_iff.mp hlen) hcov
    · cases hgo

/-- **Every step of a transaction keeps its invariant**, if the sums are current
when an order is locked. -/
theorem goesOn_txStep (h : TxInv db locks t x) (hids : (db.orders.map OrderRecord.id).Nodup)
    (hsums : x.pc.SumsCurrent (x.view db).payments)
    (hgo : txStep db (fun l => locks.isFree t l) now row x = .goes lock x') :
    GoesOn db locks t lock x' := by
  have hsettled := h.settled
  unfold txStep at hgo
  cases hpc : x.pc with
  | running todo =>
    rw [hpc] at hgo
    cases todo with
    | nil => exact goesOn_beginRecompute h hpc hgo
    | cons st todo => exact goesOn_runStatement h hpc hgo
  | updating u keys todo =>
    rw [hpc] at hgo hsettled
    cases keys with
    | nil =>
      obtain ⟨rfl, rfl⟩ := TxResult.goes.inj hgo
      exact .of_inv ⟨h.toWritesInv.goto _,
        settled_running hsettled.1 hsettled.2.2.1 hsettled.2.2.2⟩
    | cons key keys =>
      dsimp only at hgo
      split at hgo
      · cases hgo
      · exact goesOn_updateRow h hpc hgo
  | summing snapshot locked pending =>
    rw [hpc] at hgo hsettled hsums
    cases pending with
    | nil => exact goesOn_finishSelect h hids hpc hgo
    | cons id pending =>
      dsimp only at hgo
      split at hgo
      next hfree =>
        obtain ⟨rfl, rfl⟩ := TxResult.goes.inj hgo
        obtain ⟨horders, hover, hall, hlocked⟩ := hsettled
        refine ⟨fun l hl => Option.some.inj hl ▸ hfree, (h.toWritesInv.acquire hfree).goto _,
          horders, hover, ?_, fun id' hid' => ?_⟩
        · rw [List.append_assoc]
          exact hall
        · rcases List.mem_append.mp hid' with hid' | hid'
          · exact ⟨RowLocks.held_of_acquire hfree (hlocked id' hid').1, (hlocked id' hid').2⟩
          · obtain rfl := List.mem_singleton.mp hid'
            exact ⟨RowLocks.acquire_self locks t _, hsums⟩
      · cases hgo
  | storing now' rows =>
    rw [hpc] at hgo hsettled
    cases rows with
    | nil =>
      obtain ⟨rfl, rfl⟩ := TxResult.goes.inj hgo
      exact .of_inv ⟨h.toWritesInv.goto _, hsettled⟩
    | cons r rows =>
      obtain ⟨rfl, rfl⟩ := TxResult.goes.inj hgo
      refine .of_inv ⟨⟨h.accepted, h.held, h.keyed, h.covered⟩, fun r' hr' => ?_, fun w hw => ?_⟩
      · refine hsettled.1 r' ?_
        rcases List.mem_append.mp hr' with hr' | hr'
        · exact List.mem_append_left _ (List.mem_cons_of_mem r hr')
        · rcases mem_of_mem_upsertBy hr' with rfl | hr'
          · exact List.mem_append_left _ List.mem_cons_self
          · exact List.mem_append_right _ hr'
      · have hcov := hsettled.2 w hw
        rw [List.map_append, List.mem_append, List.map_cons, List.mem_cons] at hcov
        rw [List.map_append, List.mem_append]
        rcases hcov with (hr | hrows) | horders
        · exact Or.inr (mem_map_upsertBy.mpr (Or.inl hr))
        · exact Or.inl hrows
        · exact Or.inr (mem_map_upsertBy.mpr (Or.inr horders))
  | finishing now' todo =>
    rw [hpc] at hgo hsettled
    cases todo with
    | nil => cases hgo
    | cons write todo =>
      dsimp only at hgo
      split at hgo
      · obtain ⟨rfl, rfl⟩ := TxResult.goes.inj hgo
        exact .of_inv ⟨h.toWritesInv.goto _, hsettled⟩
      · obtain ⟨rfl, rfl⟩ := TxResult.goes.inj hgo
        exact .of_inv ⟨⟨h.accepted, h.held, h.keyed, h.covered⟩, hsettled⟩

end steps

/-! ## Commits -/

section commit

variable {db : PaymentDb} {locks : RowLocks LockedRow} {t t' row : ℕ} {now : Timestamp}
  {x x' : TxState}

/-- **What a transaction that commits has done**: each of its payments is of an
order it has written, each order it has written is locked, and is what a
recompute over what it leaves writes. -/
structure ReadyToCommit (db : PaymentDb) (locks : RowLocks LockedRow) (t : ℕ) (x : TxState)
    (now : Timestamp) : Prop where
  keyed : SameOrder (db.payments ++ x.payments)
  held : ∀ w ∈ x.payments, locks (.payment w.key) = some t
  recomputed : ∀ r ∈ x.orders, RecomputedIn db locks t x now r
  covered : ∀ w ∈ x.payments, w.orderId ∈ x.orders.map OrderRecord.id

theorem TxInv.readyToCommit (h : TxInv db locks t x) {isFree : LockedRow → Bool}
    {clock : Timestamp} (hstep : txStep db isFree clock row x = .commits now) :
    ReadyToCommit db locks t x now := by
  have hpc : x.pc = .finishing now [] := by
    unfold txStep at hstep
    cases hpc : x.pc with
    | running todo =>
      rw [hpc] at hstep
      cases todo with
      | nil =>
        dsimp only [beginRecompute] at hstep
        split at hstep <;> cases hstep
      | cons st todo =>
        cases st with
        | lockCursor stream check =>
          simp only [runStatement] at hstep
          split at hstep
          · split at hstep
            · cases hstep
            · split at hstep <;> cases hstep
          · cases hstep
        | upsert stream payment =>
          simp only [runStatement] at hstep
          split at hstep
          · split at hstep <;> cases hstep
          · cases hstep
        | update u => cases hstep
        | moveCursor write =>
          simp only [runStatement] at hstep
          split at hstep <;> cases hstep
    | updating u keys todo =>
      rw [hpc] at hstep
      cases keys with
      | nil => cases hstep
      | cons key keys =>
        dsimp only [updateRow] at hstep
        split at hstep
        · cases hstep
        · split at hstep
          · split at hstep
            · cases hstep
            · split at hstep <;> cases hstep
          · cases hstep
    | summing snapshot locked pending =>
      rw [hpc] at hstep
      cases pending with
      | nil =>
        dsimp only [finishSelect] at hstep
        split at hstep
        · cases hstep
        · split at hstep <;> cases hstep
      | cons id pending =>
        dsimp only at hstep
        split at hstep <;> cases hstep
    | storing now' rows =>
      rw [hpc] at hstep
      cases rows <;> cases hstep
    | finishing now' todo =>
      rw [hpc] at hstep
      cases todo with
      | nil =>
        cases hstep
        rfl
      | cons write todo =>
        dsimp only at hstep
        split at hstep <;> cases hstep
  have hsettled := h.settled
  rw [hpc] at hsettled
  exact ⟨h.keyed, h.held, hsettled.1, hsettled.2⟩

namespace ReadyToCommit

/-- An order locked by another transaction is none of those that are written. -/
theorem ne_of_locked (h : ReadyToCommit db locks t x now) (hne : t' ≠ t) {id : Uuid}
    (hlocked : locks (.order id) = some t') :
    (∀ r ∈ x.orders, r.id ≠ id) ∧ ∀ w ∈ x.payments, w.orderId ≠ id := by
  have horders : ∀ r ∈ x.orders, r.id ≠ id := by
    intro r hr hid
    have hown := (h.recomputed r hr).1
    rw [hid, hlocked] at hown
    exact hne (Option.some.inj hown)
  refine ⟨horders, fun w hw hid => ?_⟩
  obtain ⟨r, hr, hrid⟩ := List.mem_map.mp (h.covered w hw)
  exact horders r hr (hrid.trans hid)

/-- The totals of an order another transaction has locked stay as it sees them. -/
theorem sameTotals (h : ReadyToCommit db locks t x now) (hne : t' ≠ t) (x' : TxState)
    {id : Uuid} (hlocked : locks (.order id) = some t') :
    SameTotals (x'.view db).payments (x'.view (x.view db)).payments id :=
  ⟨(totalWhere_overlay_overlay _ _ h.keyed (h.ne_of_locked hne hlocked).2).symm,
    (totalWhere_overlay_overlay _ _ h.keyed (h.ne_of_locked hne hlocked).2).symm⟩

/-- Rows with one key are of one order after the commit, and in the view of
another transaction too. -/
theorem sameOrder (h : ReadyToCommit db locks t x now) (hne : t' ≠ t) (own : List PaymentRecord)
    (hkeyed : SameOrder (db.payments ++ own))
    (hheld : ∀ w ∈ own, locks (.payment w.key) = some t') :
    SameOrder ((x.view db).payments ++ own) := by
  -- no key is locked by both
  have hdisjoint : ∀ w ∈ x.payments, ∀ w' ∈ own, w.key ≠ w'.key := by
    intro w hw w' hw' hk
    have hlock := h.held w hw
    rw [hk, hheld w' hw'] at hlock
    exact hne (Option.some.inj hlock)
  have hsplit : ∀ p ∈ (x.view db).payments ++ own,
      (p ∈ db.payments ++ own) ∨ p ∈ x.payments := by
    intro p hp
    rcases List.mem_append.mp hp with hp | hp
    · rcases mem_overlay.mp hp with ⟨hbase, -⟩ | hw
      · exact Or.inl (List.mem_append_left _ hbase)
      · exact Or.inr hw
    · exact Or.inl (List.mem_append_right _ hp)
  have hmixed : ∀ p ∈ db.payments ++ own, ∀ w ∈ x.payments, p.key = w.key →
      p.orderId = w.orderId := by
    intro p hp w hw hk
    rcases List.mem_append.mp hp with hbase | hown
    · exact h.keyed p (List.mem_append_left _ hbase) w (List.mem_append_right _ hw) hk
    · exact absurd hk.symm (hdisjoint w hw p hown)
  intro p hp q hq hk
  rcases hsplit p hp with hp | hp
  · rcases hsplit q hq with hq | hq
    · exact hkeyed p hp q hq hk
    · exact hmixed p hp q hq hk
  · rcases hsplit q hq with hq | hq
    · exact (hmixed q hq p hp hk.symm).symm
    · exact h.keyed p (List.mem_append_right _ hp) q (List.mem_append_right _ hq) hk

/-- What another transaction is about to write is still what a recompute writes. -/
theorem recomputedIn (h : ReadyToCommit db locks t x now) (hne : t' ≠ t) {clock : Timestamp}
    {r : OrderRecord} (hr : RecomputedIn db locks t' x' clock r) :
    RecomputedIn (x.view db) (locks.release t) t' x' clock r := by
  obtain ⟨hlocked, c, hc, rfl⟩ := hr
  refine ⟨RowLocks.held_of_release hne hlocked, c, ?_, ?_⟩
  · exact mem_replaceRows_of_ne hc (h.ne_of_locked hne hlocked).1
  · exact recomputedOrder_congr (h.sameTotals hne x' hlocked) db.overrides clock

/-- **A commit leaves the other transactions their invariant.** -/
theorem txInv (h : ReadyToCommit db locks t x now) (hne : t' ≠ t) (h' : TxInv db locks t' x') :
    TxInv (x.view db) (locks.release t) t' x' := by
  refine ⟨⟨h'.accepted, fun w hw => RowLocks.held_of_release hne (h'.held w hw),
    h.sameOrder hne x'.payments h'.keyed h'.held, h'.covered⟩, ?_⟩
  exact h'.settled.transfer rfl
    (fun id hid => ⟨RowLocks.held_of_release hne hid, h.sameTotals hne x' hid⟩)
    (fun clock r hr => h.recomputedIn hne hr)

end ReadyToCommit

end commit

/-! ## Every run -/

namespace TxSystem

variable {start s u : TxSystem}

/-- **The invariant of the system.** -/
structure Inv (start s : TxSystem) : Prop where
  ids : (s.db.orders.map OrderRecord.id).Nodup
  keyed : SameOrder s.db.payments
  tx : ∀ t x, s.tx t = some x → TxInv s.db s.locks t x
  noLost : NoLostRecompute start s

theorem Initial.inv (h : s.Initial) : Inv s s := by
  refine ⟨h.ids, fun p hp q hq hk => ?_, fun t x hx => ?_, fun o ho => ?_⟩
  · rw [List.inj_on_of_nodup_map h.keys hp hq hk]
  · rw [h.idle t] at hx
    cases hx
  · rw [h.unrecomputed o.id]
    exact ⟨ho, fun q => rfl⟩

/-- The transactions after one of them has moved. -/
theorem tx_of_update {t t' : ℕ} {y : Option TxState} {x' : TxState}
    (h : Function.update s.tx t y t' = some x') : (t' = t ∧ y = some x') ∨ (t' ≠ t ∧ s.tx t' = some x') := by
  by_cases ht : t' = t
  · subst ht
    rw [Function.update_self] at h
    exact Or.inl ⟨rfl, h⟩
  · rw [Function.update_of_ne ht] at h
    exact Or.inr ⟨ht, h⟩

/-- A transaction begins. -/
theorem Inv.begin (h : Inv start s) (t : ℕ) {call : RepositoryCall} (hcheck : call.check = .ok ()) :
    Inv start { s with tx := Function.update s.tx t (some (.started call)) } := by
  refine ⟨h.ids, h.keyed, fun t' x' hx' => ?_, h.noLost⟩
  rcases tx_of_update hx' with ⟨rfl, hx⟩ | ⟨-, hx⟩
  · rw [← Option.some.inj hx]
    exact .started s.locks t' h.keyed hcheck
  · exact h.tx t' x' hx

/-- A transaction ends without having committed. -/
theorem Inv.ended (h : Inv start s) (t : ℕ) : Inv start (s.ended t) := by
  refine ⟨h.ids, h.keyed, fun t' x' hx' => ?_, h.noLost⟩
  rcases tx_of_update hx' with ⟨rfl, hx⟩ | ⟨hne, hx⟩
  · cases hx
  · exact (h.tx t' x' hx).mono (fun l hl => RowLocks.held_of_release hne hl)

/-- A transaction goes on. -/
theorem Inv.moved (h : Inv start s) {t : ℕ} {lock : Option LockedRow} {x : TxState}
    (hgo : GoesOn s.db s.locks t lock x) : Inv start (s.moved t lock x) := by
  refine ⟨h.ids, h.keyed, fun t' x' hx' => ?_, h.noLost⟩
  rcases tx_of_update hx' with ⟨rfl, hx⟩ | ⟨hne, hx⟩
  · rw [← Option.some.inj hx]
    exact hgo.2
  · refine (h.tx t' x' hx).mono (fun l hl => ?_)
    cases lock with
    | none => exact hl
    | some k => exact RowLocks.held_of_acquire (hgo.1 k rfl) hl

/-- **What is committed is a recompute of what is committed.** -/
theorem noLost_of_commit (h : Inv start s) {t : ℕ} {x : TxState} {now : Timestamp}
    (hready : ReadyToCommit s.db s.locks t x now) :
    NoLostRecompute start (s.committed t x now) := by
  intro o ho
  show match (if o.id ∈ x.orders.map OrderRecord.id then some now else s.recomputedAt o.id) with
    | some now => o = recomputedOrder (x.view s.db).payments s.db.overrides now o
    | none => o ∈ start.db.orders
      ∧ ∀ q, totalWhere q (x.view s.db).payments o.id = totalWhere q start.db.payments o.id
  rcases mem_replaceRows ho with hown | ⟨hbase, hother⟩
  · obtain ⟨-, c, -, hrow⟩ := hready.recomputed o hown
    rw [if_pos (List.mem_map_of_mem hown)]
    show o = recomputedOrder (x.view s.db).payments s.db.overrides now o
    rw [hrow, recomputedOrder_recomputedOrder]
  · have hnot : o.id ∉ x.orders.map OrderRecord.id := by
      intro hmem
      obtain ⟨r, hr, hid⟩ := List.mem_map.mp hmem
      exact hother r hr hid
    have hne : ∀ w ∈ x.payments, w.orderId ≠ o.id := fun w hw hid => hnot (hid ▸ hready.covered w hw)
    rw [if_neg hnot]
    have hbefore := h.noLost o hbase
    cases hat : s.recomputedAt o.id with
    | some clock =>
      rw [hat] at hbefore
      refine hbefore.trans (recomputedOrder_congr ⟨?_, ?_⟩ s.db.overrides clock)
      · exact (totalWhere_overlay _ hready.keyed hne).symm
      · exact (totalWhere_overlay _ hready.keyed hne).symm
    | none =>
      rw [hat] at hbefore
      exact ⟨hbefore.1, fun q => (totalWhere_overlay q hready.keyed hne).trans (hbefore.2 q)⟩

/-- A transaction commits. -/
theorem Inv.committed (h : Inv start s) {t : ℕ} {x : TxState} {now : Timestamp}
    (hready : ReadyToCommit s.db s.locks t x now) : Inv start (s.committed t x now) := by
  refine ⟨?_, ?_, fun t' x' hx' => ?_, noLost_of_commit h hready⟩
  · show ((replaceRows OrderRecord.id s.db.orders x.orders).map OrderRecord.id).Nodup
    rw [map_replaceRows]
    exact h.ids
  · have hsame := hready.sameOrder (Nat.succ_ne_self t) []
      (by rw [List.append_nil]; exact h.keyed) (fun w hw => absurd hw List.not_mem_nil)
    rwa [List.append_nil] at hsame
  · rcases tx_of_update hx' with ⟨rfl, hx⟩ | ⟨hne, hx⟩
    · cases hx
    · exact hready.txInv hne (h.tx t' x' hx)

/-- **Every step keeps the invariant**, if the sums are current when an order is
locked. -/
theorem Inv.step {a : TxAction} (h : Inv start s) (hsums : s.SumsCurrent a)
    (hst : TxSystem.step s a = some u) : Inv start u := by
  cases a with
  | begin t call =>
    simp only [TxSystem.step] at hst
    split at hst
    · cases hst
    · split at hst
      · cases hst
      next hcheck =>
        rw [← Option.some.inj hst]
        exact h.begin t hcheck
  | advance t now row =>
    simp only [TxSystem.step] at hst
    split at hst
    · cases hst
    next x hx =>
      split at hst
      · cases hst
      · rw [← Option.some.inj hst]
        exact h.ended t
      next lock x' hgo =>
        rw [← Option.some.inj hst]
        exact h.moved (goesOn_txStep (h.tx t x hx) h.ids (hsums x hx) hgo)
      next clock hcommit =>
        rw [← Option.some.inj hst]
        exact h.committed ((h.tx t x hx).readyToCommit hcommit)
  | abort t =>
    rw [← Option.some.inj hst]
    exact h.ended t

/-- **No recompute is lost** in any interleaving in which the sums are current
whenever a recompute obtains the lock of an order. -/
theorem noLostRecompute_of_run {as : List TxAction} (hinit : s.Initial)
    (hsums : StepsMeet TxSystem.step SumsCurrent s as)
    (hr : runSteps TxSystem.step s as = some u) : NoLostRecompute s u :=
  (inv_of_run (I := Inv s) (fun _ _ _ h hP hst => Inv.step h hP hst) hinit.inv hsums hr).noLost

/-!
Two sweeps confirm one payment each of an order of 100.
-/

namespace TwoSweeps

/-- The token. -/
def stream : StreamId := ⟨1, 0x70⟩

/-- Half of what the order expects. -/
def half (id : Uuid) (logIndex : ℕ) : PaymentRecord where
  id := id
  orderId := 0xd1
  childAccountId := 0xe1
  chainId := 1
  tokenAddress := 0x70
  txHash := 0x77
  logIndex := logIndex
  fromAddress := 0x88
  toAddress := 0xc1
  amountRaw := 50
  blockNumber := 1
  blockHash := 0xa1
  blockTime := 1
  confirmations := 1
  matchStatus := .onTime
  chainStatus := .observed

/-- Both halves are observed. -/
def initial : TxSystem where
  db := ⟨[⟨0xd1, "merchant", 0xe1, 0xc1, 1, 0x70, 100, 0, .confirming, 10, 20⟩],
    [⟨0xd1, 0xc1, ⟨0, 0x90⟩, 10, 20⟩], [], [half 0xf1 0, half 0xf2 1], []⟩
  tx := fun _ => none
  locks := fun _ => none
  recomputedAt := fun _ => none

theorem initial_initial : initial.Initial :=
  ⟨fun _ => rfl, fun _ => rfl, fun _ => rfl, by decide, by decide⟩

/-- A sweep that confirms one payment. -/
def sweep (id : Uuid) : RepositoryCall := .confirmObservedPayments ⟨stream, [id], ⟨5, 0xa5⟩⟩

/-- Both sweeps begin. -/
def bothBegin : List TxAction := [.begin 1 (sweep 0xf1), .begin 2 (sweep 0xf2)]

/-- A number of steps of a transaction. -/
def steps (t n : ℕ) : List TxAction := List.replicate n (.advance t 0 0)

/-- The second sweep starts its recompute after the first has committed. -/
def inTurn : List TxAction := bothBegin ++ steps 1 3 ++ steps 2 3 ++ steps 1 6 ++ steps 2 6

/-- The second sweep starts its recompute, and waits for the lock, before the
first commits. -/
def waiting : List TxAction := bothBegin ++ steps 1 8 ++ steps 2 4 ++ steps 1 1 ++ steps 2 5

end TwoSweeps

/-- Two sweeps whose recomputes do not overlap lose nothing. -/
theorem noLostRecompute_of_turns :
    ∃ u, runSteps TxSystem.step TwoSweeps.initial TwoSweeps.inTurn = some u
      ∧ u.db.orders.map (fun o => (o.paidAmountRaw, o.status)) = [(100, .paid)]
      ∧ NoLostRecompute TwoSweeps.initial u := by
  have hend : ((runSteps TxSystem.step TwoSweeps.initial TwoSweeps.inTurn).filter (fun u =>
      decide (u.db.orders.map (fun o => (o.paidAmountRaw, o.status)) = [(100, .paid)]))).isSome
        = true := by
    decide
  obtain ⟨u, hu⟩ := Option.isSome_iff_exists.mp hend
  obtain ⟨hr, hu⟩ := Option.filter_eq_some_iff.mp hu
  exact ⟨u, hr, of_decide_eq_true hu,
    noLostRecompute_of_run TwoSweeps.initial_initial (by decide) hr⟩

/-- **A recompute is lost**: the second sweep has waited for the first to commit,
and writes the order from sums that miss its payment. Both payments are
confirmed, and the order is half paid. -/
theorem noLostRecompute_fails :
    ¬ ∀ (s u : TxSystem) (as : List TxAction), s.Initial →
      runSteps TxSystem.step s as = some u →
      (∀ t call, TxAction.begin t call ∈ as → u.tx t = none) → NoLostRecompute s u := by
  intro hall
  have hend : ((runSteps TxSystem.step TwoSweeps.initial TwoSweeps.waiting).filter (fun u =>
      (u.tx 1).isNone && (u.tx 2).isNone
        && decide (u.db.payments.map PaymentRecord.chainStatus = [.confirmed, .confirmed])
        && decide (∃ o ∈ u.db.orders, u.recomputedAt o.id = some 0
          ∧ o ≠ recomputedOrder u.db.payments u.db.overrides 0 o))).isSome = true := by
    decide
  obtain ⟨u, hu⟩ := Option.isSome_iff_exists.mp hend
  obtain ⟨hr, hu⟩ := Option.filter_eq_some_iff.mp hu
  simp only [Bool.and_eq_true, decide_eq_true_eq, Option.isNone_iff_eq_none] at hu
  obtain ⟨⟨⟨hone, htwo⟩, -⟩, o, ho, hat, hne⟩ := hu
  have hended : ∀ t call, TxAction.begin t call ∈ TwoSweeps.waiting → u.tx t = none := by
    intro t call hmem
    have hbegin : TxAction.begin t call ∈ TwoSweeps.bothBegin := by
      simpa [TwoSweeps.waiting, TwoSweeps.steps] using hmem
    rcases List.mem_cons.mp hbegin with heq | hbegin
    · rw [(TxAction.begin.inj heq).1]
      exact hone
    · rw [(TxAction.begin.inj (List.mem_singleton.mp hbegin)).1]
      exact htwo
  have hlost := hall _ u _ TwoSweeps.initial_initial hr hended o ho
  rw [hat] at hlost
  exact hne hlost

end TxSystem
