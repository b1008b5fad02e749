import Pay3.VerifyFindsScanned

/-!
# Which batches the tables accept

A batch is stored as a whole or not at all: its payments are upserted one after
the other, the orders they pay are recomputed, and an error of any of these
leaves the cursor where it was. What the batch holds is up to whoever sends
tokens to the addresses of orders, so the question is which lists of transfers
the tables take.

Every upsert asks the same of its row, and of the rows before it only that a row
with its key went to the same address. So the loop can be judged from the table
it starts with: the payments each fit their columns and are worth something, no
key is held by a payment of another address, and the amounts the orders come to
fit theirs. A transfer of nothing to the address of an order is enough to fail.
-/

variable {db db' : PaymentDb} {stream : StreamId}

/-! ## Rows up to their ids -/

namespace PaymentRecord

@[simp] theorem anonymous_key (p : PaymentRecord) : p.anonymous.key = p.key := rfl

@[simp] theorem anonymous_orderId (p : PaymentRecord) : p.anonymous.orderId = p.orderId := rfl

/-- What a row adds to a total does not depend on its id. -/
theorem share_anonymous {q : PaymentRecord → Bool} (hq : ∀ p, q p.anonymous = q p) (orderId : Uuid)
    (p : PaymentRecord) : p.anonymous.share q orderId = p.share q orderId := by
  unfold share
  rw [hq]
  rfl

end PaymentRecord

/-- Rows that agree up to ids add up to the same. -/
theorem totalWhere_eq_of_anonymous {q : PaymentRecord → Bool} (hq : ∀ p, q p.anonymous = q p)
    {rows rows' : List PaymentRecord}
    (h : rows.map PaymentRecord.anonymous = rows'.map PaymentRecord.anonymous) (orderId : Uuid) :
    totalWhere q rows orderId = totalWhere q rows' orderId := by
  have hsum : ∀ l : List PaymentRecord, totalWhere q l orderId
      = ((l.map PaymentRecord.anonymous).map (PaymentRecord.share q orderId)).sum := by
    intro l
    rw [totalWhere_eq_sum, List.map_map]
    exact congrArg List.sum (List.map_congr_left
      (fun p _ => (PaymentRecord.share_anonymous hq orderId p).symm))
  rw [hsum, hsum, h]

/-! ## One upsert -/

/-- The columns of a payment that are integers fit them, and the amount is not
zero. -/
structure PaymentRecord.Fits (p : PaymentRecord) : Prop where
  logIndex : p.logIndex ≤ i64Max
  blockNumber : p.blockNumber ≤ i64Max
  confirmations : p.confirmations ≤ i64Max
  amount : 0 < p.amountRaw.toNat

/-- The row an upsert proposes for a payment, if its order is there. -/
def PaymentDb.storedRow (db : PaymentDb) (stream : StreamId) (payment : MatchedPaymentInput) :
    Option PaymentRecord :=
  (db.matchedOrder stream payment).map (fun ow => proposedRow ow.1 ow.2 payment)

section sameTarget

variable {p q r : PaymentRecord}

theorem sameTarget_eq_true : sameTarget p q = true ↔ p.orderId = q.orderId
    ∧ p.chainId = q.chainId ∧ p.tokenAddress = q.tokenAddress ∧ p.toAddress = q.toAddress := by
  unfold sameTarget
  simp only [Bool.and_eq_true, decide_eq_true_eq, and_assoc]

theorem sameTarget_trans (h : sameTarget p q = true) (h' : sameTarget q r = true) :
    sameTarget p r = true := by
  rw [sameTarget_eq_true] at h h' ⊢
  exact ⟨h.1.trans h'.1, h.2.1.trans h'.2.1, h.2.2.1.trans h'.2.2.1, h.2.2.2.trans h'.2.2.2⟩

end sameTarget

/-- **When one upsert goes through**: the payment fits, and a row that has its key
has its target. -/
theorem upsertMatchedPaymentTx_isOk {m : MatchedPaymentInput} {row : PaymentRecord}
    (hrow : db.storedRow stream m = some row) (hchain : stream.chainId ≤ i64Max)
    (hkeys : (db.payments.map PaymentRecord.key).Nodup) (hfresh : ∀ p ∈ db.payments, p.id ≠ m.id) :
    (∃ result, upsertMatchedPaymentTx db stream m = .ok result)
      ↔ m.Fits ∧ ∀ p ∈ db.payments, p.key = row.key → sameTarget p row = true := by
  obtain ⟨⟨o, w⟩, how, rfl⟩ := Option.map_eq_some_iff.mp hrow
  unfold upsertMatchedPaymentTx
  constructor
  · rintro ⟨result, h⟩
    obtain ⟨_, -, h⟩ := Except.bind_eq_ok.mp h
    obtain ⟨_, hlog, h⟩ := Except.bind_eq_ok.mp h
    obtain ⟨_, hblock, h⟩ := Except.bind_eq_ok.mp h
    obtain ⟨_, hconf, h⟩ := Except.bind_eq_ok.mp h
    obtain ⟨⟨o', w'⟩, how', h⟩ := Except.bind_eq_ok.mp h
    obtain ⟨hpos, h⟩ := ensure_bind_eq_ok.mp h
    rw [orError_eq_ok, how] at how'
    obtain ⟨rfl, rfl⟩ := Prod.mk.inj (Option.some.inj how')
    refine ⟨⟨(toI64_eq_ok.mp hlog).1, (toI64_eq_ok.mp hblock).1, (toI64_eq_ok.mp hconf).1,
      of_decide_eq_true hpos⟩, fun p hp hkey => ?_⟩
    have hfind := find?_eq_some_of_mem hkeys hp
    rw [hkey] at hfind
    dsimp only at h
    rw [hfind] at h
    exact (ensure_bind_eq_ok.mp h).1
  · rintro ⟨hfits, hsame⟩
    have hi64 : ∀ {value : ℕ} (field : String), value ≤ i64Max →
        paymentU64ToI64 value field = .ok value :=
      fun field hle => toI64_eq_ok.mpr ⟨hle, rfl⟩
    refine Except.exists_bind_eq_ok.mpr ⟨_, hi64 _ hchain, ?_⟩
    refine Except.exists_bind_eq_ok.mpr ⟨_, hi64 _ hfits.logIndex, ?_⟩
    refine Except.exists_bind_eq_ok.mpr ⟨_, hi64 _ hfits.blockNumber, ?_⟩
    refine Except.exists_bind_eq_ok.mpr ⟨_, hi64 _ hfits.confirmations, ?_⟩
    refine Except.exists_bind_eq_ok.mpr ⟨(o, w), orError_eq_ok.mpr how, ?_⟩
    refine exists_ensure_bind_eq_ok.mpr ⟨decide_eq_true hfits.amount, ?_⟩
    dsimp only
    cases hfind : db.payments.find? (fun p => decide (p.key = (proposedRow o w m).key)) with
    | some old =>
      obtain ⟨hold, hkey⟩ := mem_of_find?_key hfind
      exact exists_ensure_bind_eq_ok.mpr ⟨hsame old hold hkey, _, rfl⟩
    | none =>
      have hid : (proposedRow o w m).id = m.id := rfl
      exact exists_ensure_bind_eq_ok.mpr ⟨by simpa [hid] using hfresh, _, rfl⟩

/-! ## The loop -/

/-- The table after the rows are written to it, one after the other. -/
def upsertAll (rows payments : List PaymentRecord) : List PaymentRecord :=
  rows.foldl (fun acc row => upsertBy PaymentRecord.key row acc) payments

theorem map_anonymous_upsertAll (rows payments : List PaymentRecord) :
    (upsertAll rows payments).map PaymentRecord.anonymous
      = upsertAll (rows.map PaymentRecord.anonymous) (payments.map PaymentRecord.anonymous) := by
  induction rows generalizing payments with
  | nil => rfl
  | cons row rows ih =>
    show (upsertAll rows (upsertBy PaymentRecord.key row payments)).map PaymentRecord.anonymous = _
    rw [ih, map_upsertBy PaymentRecord.anonymous_key]
    rfl

/-- **Payments a table takes**, each with the row it stands for: every one fits,
and one with the key of a row, in the table or before it, has the target of that
row. -/
structure Acceptable (payments : List PaymentRecord)
    (entries : List (MatchedPaymentInput × PaymentRecord)) : Prop where
  fits : ∀ e ∈ entries, e.1.Fits
  free : ∀ e ∈ entries, ∀ p ∈ payments, p.key = e.2.key → sameTarget p e.2 = true
  once : entries.Pairwise (fun e e' => e.2.key = e'.2.key → sameTarget e.2 e'.2 = true)

/-- The first payment and the rest, which meets its row. -/
theorem acceptable_cons {payments : List PaymentRecord} {e : MatchedPaymentInput × PaymentRecord}
    {rest : List (MatchedPaymentInput × PaymentRecord)} {record : PaymentRecord}
    (hkeys : (payments.map PaymentRecord.key).Nodup)
    (hrecord : record = { e.2 with id := record.id }) :
    Acceptable payments (e :: rest)
      ↔ (e.1.Fits ∧ ∀ p ∈ payments, p.key = e.2.key → sameTarget p e.2 = true)
        ∧ Acceptable (upsertBy PaymentRecord.key record payments) rest := by
  have hkey : record.key = e.2.key := by
    rw [hrecord]
    rfl
  have hsame : ∀ x, sameTarget record x = sameTarget e.2 x := by
    intro x
    rw [hrecord]
    rfl
  constructor
  · intro h
    have honce := List.pairwise_cons.mp h.once
    refine ⟨⟨h.fits e List.mem_cons_self, h.free e List.mem_cons_self⟩,
      fun x hx => h.fits x (List.mem_cons_of_mem e hx), fun x hx p hp hk => ?_, honce.2⟩
    rcases mem_of_mem_upsertBy hp with rfl | hold
    · rw [hsame]
      exact honce.1 x hx (hkey.symm.trans hk)
    · exact h.free x (List.mem_cons_of_mem e hx) p hold hk
  · rintro ⟨⟨hfits, hfree⟩, hrest⟩
    have hmeet : ∀ x ∈ rest, e.2.key = x.2.key → sameTarget e.2 x.2 = true := by
      intro x hx hk
      rw [← hsame]
      exact hrest.free x hx record ((mem_upsertBy hkeys).mpr (Or.inl rfl)) (hkey.trans hk)
    refine ⟨?_, ?_, List.pairwise_cons.mpr ⟨hmeet, hrest.once⟩⟩
    · intro x hx
      rcases List.mem_cons.mp hx with rfl | hx
      · exact hfits
      · exact hrest.fits x hx
    · intro x hx p hp hk
      rcases List.mem_cons.mp hx with rfl | hx
      · exact hfree p hp hk
      · -- a row the first payment replaces has its target, and the later payment met that
        by_cases hke : p.key = e.2.key
        · exact sameTarget_trans (hfree p hp hke) (hmeet x hx (hke.symm.trans hk))
        · refine hrest.free x hx p ((mem_upsertBy hkeys).mpr (Or.inr ⟨hp, ?_⟩)) hk
          rw [hkey]
          exact hke

/-- Two payments with one key have one target, whichever comes first. -/
theorem Acceptable.sameTarget_of_key {payments : List PaymentRecord}
    {entries : List (MatchedPaymentInput × PaymentRecord)} (h : Acceptable payments entries)
    {e e' : MatchedPaymentInput × PaymentRecord} (he : e ∈ entries) (he' : e' ∈ entries)
    (hkey : e.2.key = e'.2.key) : sameTarget e.2 e'.2 = true := by
  have hsymm : Std.Symm (fun x y : MatchedPaymentInput × PaymentRecord =>
      x.2.key = y.2.key → sameTarget x.2 y.2 = true) := by
    refine ⟨fun x y hxy hk => ?_⟩
    obtain ⟨horder, hchain, htoken, hto⟩ := sameTarget_eq_true.mp (hxy hk.symm)
    exact sameTarget_eq_true.mpr ⟨horder.symm, hchain.symm, htoken.symm, hto.symm⟩
  exact List.Pairwise.forall_of_forall
    (fun x _ _ => sameTarget_eq_true.mpr ⟨rfl, rfl, rfl, rfl⟩) h.once he he' hkey

/-- **When the upserts of a transaction all go through.** -/
theorem upsertMatchedPayments_isOk {entries : List (MatchedPaymentInput × PaymentRecord)}
    (hrows : ∀ e ∈ entries, db.storedRow stream e.1 = some e.2)
    (hchain : stream.chainId ≤ i64Max) (hkeys : (db.payments.map PaymentRecord.key).Nodup)
    (hfresh : ∀ e ∈ entries, ∀ p ∈ db.payments, p.id ≠ e.1.id)
    (hids : entries.Pairwise (fun e e' => e.1.id ≠ e'.1.id)) :
    (∃ result, upsertMatchedPayments db (entries.map (fun e => (stream, e.1))) = .ok result)
      ↔ Acceptable db.payments entries := by
  induction entries generalizing db with
  | nil =>
    refine ⟨fun _ => ⟨?_, ?_, List.Pairwise.nil⟩, fun _ => ⟨_, rfl⟩⟩
    · exact fun e he => absurd he List.not_mem_nil
    · exact fun e he => absurd he List.not_mem_nil
  | cons e rest ih =>
    have hrow := hrows e List.mem_cons_self
    have hstep := upsertMatchedPaymentTx_isOk hrow hchain hkeys (hfresh e List.mem_cons_self)
    have hids' := List.pairwise_cons.mp hids
    -- what the rest needs holds of the table the first upsert leaves
    have hrest : ∀ record db₁, upsertMatchedPaymentTx db stream e.1 = .ok (record, db₁) →
        (Acceptable db.payments (e :: rest)
          ↔ (e.1.Fits ∧ ∀ p ∈ db.payments, p.key = e.2.key → sameTarget p e.2 = true)
            ∧ ∃ result, upsertMatchedPayments db₁ (rest.map (fun e => (stream, e.1)))
              = .ok result) := by
      intro record db₁ h₁
      obtain ⟨o, w, how, hdb, hrecord, hid⟩ := upsertMatchedPaymentTx_eq_ok h₁
      have hpayments : db₁.payments = upsertBy PaymentRecord.key record db.payments := by rw [hdb]
      unfold PaymentDb.storedRow at hrow
      rw [how] at hrow
      rw [show proposedRow o w e.1 = e.2 from Option.some.inj hrow] at hrecord
      rw [acceptable_cons hkeys hrecord, ← hpayments]
      refine and_congr_right (fun _ => (ih ?_ ?_ ?_ hids'.2).symm)
      · intro x hx
        rw [hdb]
        exact hrows x (List.mem_cons_of_mem e hx)
      · rw [hpayments]
        exact nodup_map_upsertBy record hkeys
      · intro x hx p hp
        rcases mem_of_mem_upsertBy (hpayments ▸ hp) with rfl | hold
        · rcases hid with ⟨old, hfind, -, hold⟩ | ⟨-, hnew, -⟩
          · rw [hold]
            exact hfresh x (List.mem_cons_of_mem e hx) old (List.mem_of_find?_eq_some hfind)
          · rw [hnew]
            exact hids'.1 x hx
        · exact hfresh x (List.mem_cons_of_mem e hx) p hold
    rw [List.map_cons]
    unfold upsertMatchedPayments
    rw [Except.exists_bind_eq_ok]
    constructor
    · rintro ⟨⟨record, db₁⟩, h₁, h₂⟩
      obtain ⟨result, hresult, -⟩ := Except.exists_bind_eq_ok.mp h₂
      exact (hrest record db₁ h₁).mpr ⟨hstep.mp ⟨_, h₁⟩, result, hresult⟩
    · intro hall
      obtain ⟨⟨record, db₁⟩, h₁⟩ := hstep.mpr ⟨hall.fits e List.mem_cons_self,
        hall.free e List.mem_cons_self⟩
      obtain ⟨-, result, hresult⟩ := (hrest record db₁ h₁).mp hall
      exact ⟨(record, db₁), h₁, Except.exists_bind_eq_ok.mpr ⟨result, hresult, _, rfl⟩⟩

/-- **What the upserts of a transaction leave**, up to ids: the rows written are
those the payments stand for, put into the table one after the other. -/
theorem rows_of_upserts {entries : List (MatchedPaymentInput × PaymentRecord)}
    {records : List PaymentRecord} (hrows : ∀ e ∈ entries, db.storedRow stream e.1 = some e.2)
    (h : upsertMatchedPayments db (entries.map (fun e => (stream, e.1))) = .ok (records, db')) :
    records.map PaymentRecord.anonymous = entries.map (fun e => e.2.anonymous)
      ∧ db'.payments.map PaymentRecord.anonymous
        = (upsertAll (entries.map Prod.snd) db.payments).map PaymentRecord.anonymous := by
  induction entries generalizing db records with
  | nil =>
    obtain ⟨rfl, rfl⟩ := Prod.mk.inj (Except.ok.inj h)
    exact ⟨rfl, rfl⟩
  | cons e rest ih =>
    rw [List.map_cons] at h
    obtain ⟨record, tail, db₁, h₁, h₂, rfl⟩ := upsertMatchedPayments_cons_eq_ok h
    obtain ⟨o, w, how, hdb, hrecord, -⟩ := upsertMatchedPaymentTx_eq_ok h₁
    have hpayments₁ : db₁.payments = upsertBy PaymentRecord.key record db.payments := by rw [hdb]
    have hrow := hrows e List.mem_cons_self
    unfold PaymentDb.storedRow at hrow
    rw [how] at hrow
    have hanon : record.anonymous = e.2.anonymous := by
      rw [hrecord, ← show proposedRow o w e.1 = e.2 from Option.some.inj hrow]
      rfl
    have hrows₁ : ∀ x ∈ rest, db₁.storedRow stream x.1 = some x.2 := by
      intro x hx
      rw [hdb]
      exact hrows x (List.mem_cons_of_mem e hx)
    obtain ⟨htail, hpayments⟩ := ih hrows₁ h₂
    refine ⟨?_, ?_⟩
    · rw [List.map_cons, List.map_cons, hanon, htail]
    · rw [hpayments, map_anonymous_upsertAll, map_anonymous_upsertAll, hpayments₁,
        map_upsertBy PaymentRecord.anonymous_key, hanon]
      rfl

/-! ## The orders and the cursor -/

/-- A recompute of orders that are all there goes through when what it writes
fits. -/
theorem recomputeOrdersInTx_isOk {now : Timestamp} {orderIds : List Uuid}
    (hids : (db.orders.map OrderRecord.id).Nodup) (hnd : orderIds.Nodup)
    (hfound : ∀ id ∈ orderIds, ∃ o ∈ db.orders, o.id = id) :
    (∃ result, recomputeOrdersInTx db now orderIds = .ok result)
      ↔ db.RecomputeFits now orderIds := by
  constructor
  · rintro ⟨result, h⟩
    exact (recomputeOrdersInTx_eq_ok h).1
  · intro hfits
    unfold recomputeOrdersInTx
    by_cases he : orderIds.isEmpty = true
    · rw [if_pos he]
      exact ⟨db, rfl⟩
    · rw [if_neg he]
      -- the orders read are one for each id
      have hperm : ((db.orders.filter (fun o => decide (o.id ∈ orderIds))).map OrderRecord.id).Perm
          orderIds := by
        refine (List.perm_ext_iff_of_nodup
          (hids.sublist (List.filter_sublist.map OrderRecord.id)) hnd).mpr (fun id => ?_)
        rw [List.mem_map]
        constructor
        · rintro ⟨o, ho, rfl⟩
          exact of_decide_eq_true (List.mem_filter.mp ho).2
        · intro hid
          obtain ⟨o, ho, rfl⟩ := hfound id hid
          exact ⟨o, List.mem_filter.mpr ⟨ho, decide_eq_true hid⟩, rfl⟩
      have hlength := hperm.length_eq
      rw [List.length_map] at hlength
      refine exists_ensure_bind_eq_ok.mpr ⟨decide_eq_true hlength, ?_⟩
      refine exists_ensure_bind_eq_ok.mpr ⟨List.all_eq_true.mpr (fun o ho => ?_), _, rfl⟩
      obtain ⟨ho, hid⟩ := List.mem_filter.mp ho
      exact decide_eq_true (hfits o ho (of_decide_eq_true hid))

/-- **The cursor check of a batch passes**: the cursor is where the batch expects
it, under its lease and in its epoch, and the numbers fit. -/
structure CursorAsExpected (db : PaymentDb) (batch : CommitScannedBatch) : Prop where
  ordered : batch.expectedLastScannedBlock ≤ batch.completeToBlock
  chainId : batch.stream.chainId ≤ i64Max
  completeToBlock : batch.completeToBlock ≤ i64Max
  epoch : batch.expectedSeenKvReorgEpoch ≤ i64Max
  cursor : ∃ c, db.cursor? batch.stream = some c ∧ c.leaseOwner = some batch.workerId
    ∧ c.lastScannedBlock = batch.expectedLastScannedBlock
    ∧ c.seenKvReorgEpoch = batch.expectedSeenKvReorgEpoch

/-- **The batch is stored and the cursor stands at its end.** -/
def Advances (db : PaymentDb) (now : Timestamp) (batch : CommitScannedBatch) : Prop :=
  ∃ records db', commitScannedBatch db now batch = .ok (records, db')
    ∧ (db'.cursor? batch.stream).map ChainCursor.lastScannedBlock = some batch.completeToBlock

/-- Behind the cursor check there are the upserts and the recompute. -/
theorem commitScannedBatch_isOk {now : Timestamp} {batch : CommitScannedBatch}
    (hcheck : CursorAsExpected db batch) :
    (∃ result, commitScannedBatch db now batch = .ok result)
      ↔ ∃ records db₁, upsertMatchedPayments db
          (batch.matchedPayments.map (fun p => (batch.stream, p))) = .ok (records, db₁)
        ∧ ∃ db₂, recomputeOrdersInTx db₁ now (sortedSet (records.map PaymentRecord.orderId))
            = .ok db₂ := by
  constructor
  · rintro ⟨result, h⟩
    unfold commitScannedBatch at h
    obtain ⟨-, h⟩ := ensure_bind_eq_ok.mp h
    obtain ⟨_, -, h⟩ := Except.bind_eq_ok.mp h
    obtain ⟨_, -, h⟩ := Except.bind_eq_ok.mp h
    obtain ⟨_, -, h⟩ := Except.bind_eq_ok.mp h
    obtain ⟨_, -, h⟩ := Except.bind_eq_ok.mp h
    obtain ⟨_, -, h⟩ := Except.bind_eq_ok.mp h
    obtain ⟨-, h⟩ := ensure_bind_eq_ok.mp h
    obtain ⟨⟨records₁, db₁⟩, hup, h⟩ := Except.bind_eq_ok.mp h
    obtain ⟨db₂, hre, -⟩ := Except.bind_eq_ok.mp h
    exact ⟨records₁, db₁, hup, db₂, hre⟩
  · rintro ⟨records, db₁, hup, db₂, hre⟩
    obtain ⟨c, hc, howner, hlast, hepoch⟩ := hcheck.cursor
    have hi64 : ∀ {value : ℕ} (field : String), value ≤ i64Max →
        paymentU64ToI64 value field = .ok value :=
      fun field hle => toI64_eq_ok.mpr ⟨hle, rfl⟩
    unfold commitScannedBatch
    refine exists_ensure_bind_eq_ok.mpr ⟨decide_eq_true hcheck.ordered, ?_⟩
    refine Except.exists_bind_eq_ok.mpr ⟨_, hi64 _ hcheck.chainId, ?_⟩
    refine Except.exists_bind_eq_ok.mpr ⟨_, hi64 _ (hcheck.ordered.trans hcheck.completeToBlock), ?_⟩
    refine Except.exists_bind_eq_ok.mpr ⟨_, hi64 _ hcheck.epoch, ?_⟩
    refine Except.exists_bind_eq_ok.mpr ⟨_, hi64 _ hcheck.completeToBlock, ?_⟩
    refine Except.exists_bind_eq_ok.mpr ⟨c, orError_eq_ok.mpr hc, ?_⟩
    refine exists_ensure_bind_eq_ok.mpr ⟨by simp [howner, hlast, hepoch], ?_⟩
    refine Except.exists_bind_eq_ok.mpr ⟨(records, db₁), hup, ?_⟩
    exact Except.exists_bind_eq_ok.mpr ⟨db₂, hre, _, rfl⟩

/-- A committed batch leaves the cursor at its end. -/
theorem lastScannedBlock_of_commit {now : Timestamp} {batch : CommitScannedBatch}
    {records : List PaymentRecord} (h : commitScannedBatch db now batch = .ok (records, db')) :
    (db'.cursor? batch.stream).map ChainCursor.lastScannedBlock = some batch.completeToBlock := by
  obtain ⟨c, db₁, -, hc, -, -, -, hup, -, rfl⟩ := commitScannedBatch_eq_ok h
  have hframe := upsertMatchedPayments_frame hup
  -- upserts and recompute leave the cursors alone
  have hcursor : (db₁.recomputed now (sortedSet (records.map PaymentRecord.orderId))).cursor?
      batch.stream = some c := by
    rw [PaymentDb.recomputed_cursor?, hframe]
    exact hc
  rw [PaymentDb.cursor?_updateCursor_self (ChainCursor.advanced_stream _) hcursor]
  rfl

/-! ## From the transfers to the rows -/

namespace PaymentDb

/-- **What the schema keeps**: the directory of orders, one payment for each key,
and every payment referring to an order at the address it went to. -/
structure Schema (db : PaymentDb) : Prop where
  directory : db.Directory
  keys : (db.payments.map PaymentRecord.key).Nodup
  references : ∀ p ∈ db.payments, ∃ o ∈ db.orders, o.id = p.orderId ∧ o.chainId = p.chainId
    ∧ o.tokenAddress = p.tokenAddress ∧ o.receiveAddress = p.toAddress

/-- The order of the stream at an address, with its window. -/
def orderAt (db : PaymentDb) (stream : StreamId) (address : EvmAddress) :
    Option (OrderRecord × PaymentWindowRecord) := do
  let o ← db.orders.find? (fun o => decide (o.receiveAddress = address) &&
    decide (o.chainId = stream.chainId) && decide (o.tokenAddress = stream.tokenAddress))
  let w ← db.windows.find? (fun w => decide (w.orderId = o.id))
  pure (o, w)

/-- A transfer of the stream to the address of an order. -/
def pays (db : PaymentDb) (stream : StreamId) (log : TransferLog) : Bool :=
  decide (log.chainId = stream.chainId) && decide (log.tokenAddress = stream.tokenAddress) &&
    db.knows stream log.toAddress

/-- **The row a transfer stands for**, its id apart. -/
def rowOf (db : PaymentDb) (stream : StreamId) (minConfirmations : ℕ) (head : ChainBlockRef)
    (log : TransferLog) : Option PaymentRecord :=
  if db.pays stream log then
    (db.orderAt stream log.toAddress).map (fun ow => proposedRow ow.1 ow.2
      (matchedPaymentInput 0 log (candidateFromOrderView ow.1 ow.2) head minConfirmations))
  else none

theorem pays_eq_true {log : TransferLog} : db.pays stream log = true
    ↔ log.chainId = stream.chainId ∧ log.tokenAddress = stream.tokenAddress
      ∧ db.knows stream log.toAddress = true := by
  unfold pays
  simp only [Bool.and_eq_true, decide_eq_true_eq, and_assoc]

theorem orderAt_eq_some {address : EvmAddress} {o : OrderRecord} {w : PaymentWindowRecord}
    (h : db.orderAt stream address = some (o, w)) :
    o ∈ db.orders ∧ w ∈ db.windows ∧ w.orderId = o.id ∧ o.receiveAddress = address
      ∧ o.chainId = stream.chainId ∧ o.tokenAddress = stream.tokenAddress := by
  unfold orderAt at h
  obtain ⟨o', ho, h⟩ := Option.bind_eq_some_iff.mp h
  obtain ⟨w', hw, h⟩ := Option.bind_eq_some_iff.mp h
  obtain ⟨rfl, rfl⟩ := Prod.mk.inj (Option.some.inj h)
  have hcond := List.find?_some ho
  simp only [Bool.and_eq_true, decide_eq_true_eq] at hcond
  obtain ⟨hmem, hid⟩ := mem_of_find?_key hw
  exact ⟨List.mem_of_find?_eq_some ho, hmem, hid, hcond.1.1, hcond.1.2, hcond.2⟩

namespace Directory

/-- An address that is known has its order. -/
theorem exists_orderAt (h : db.Directory) {address : EvmAddress}
    (hknown : db.knows stream address = true) :
    ∃ o w, db.orderAt stream address = some (o, w) := by
  obtain ⟨o, ho, hchain, htoken, hto⟩ := knows_eq_true.mp hknown
  have hsome : (db.orders.find? (fun o => decide (o.receiveAddress = address) &&
      decide (o.chainId = stream.chainId) && decide (o.tokenAddress = stream.tokenAddress))).isSome
      = true := by
    rw [List.find?_isSome]
    exact ⟨o, ho, by simp [hchain, htoken, hto]⟩
  obtain ⟨o', ho'⟩ := Option.isSome_iff_exists.mp hsome
  obtain ⟨w, hw, hid⟩ := h.windowed o' (List.mem_of_find?_eq_some ho')
  have hfind := find?_eq_some_of_mem h.windowIds hw
  rw [hid] at hfind
  exact ⟨o', w, Option.bind_eq_some_iff.mpr ⟨o', ho', Option.bind_eq_some_iff.mpr ⟨w, hfind, rfl⟩⟩⟩

/-- The order at an address is the one an upsert for it finds. -/
theorem matchedOrder_of_orderAt (h : db.Directory) {address : EvmAddress} {o : OrderRecord}
    {w : PaymentWindowRecord} (how : db.orderAt stream address = some (o, w))
    {m : MatchedPaymentInput} (hid : m.orderId = o.id) (hto : m.toAddress = address) :
    db.matchedOrder stream m = some (o, w) := by
  obtain ⟨ho, hw, hwo, haddress, hchain, htoken⟩ := orderAt_eq_some how
  have hsome : (db.orders.find? (fun o => decide (o.id = m.orderId) &&
      decide (o.chainId = stream.chainId) && decide (o.tokenAddress = stream.tokenAddress) &&
      decide (o.receiveAddress = m.toAddress))).isSome = true := by
    rw [List.find?_isSome]
    exact ⟨o, ho, by simp [hid, hto, hchain, htoken, haddress]⟩
  obtain ⟨o', ho'⟩ := Option.isSome_iff_exists.mp hsome
  have hcond := List.find?_some ho'
  simp only [Bool.and_eq_true, decide_eq_true_eq] at hcond
  obtain rfl : o' = o := List.inj_on_of_nodup_map h.ids (List.mem_of_find?_eq_some ho') ho
    (hcond.1.1.1.trans hid)
  have hfind := find?_eq_some_of_mem h.windowIds hw
  rw [hwo] at hfind
  exact Option.bind_eq_some_iff.mpr ⟨o', ho', Option.bind_eq_some_iff.mpr ⟨w, hfind, rfl⟩⟩

/-- **The candidate a paying transfer is matched to** is that of its order, and
other transfers are matched to none. -/
theorem selectCandidate_eq (h : db.Directory) {toAddresses : List EvmAddress}
    {candidates : List PaymentWindowCandidate}
    (hlookup : lookupPaymentWindowCandidates db stream toAddresses = .ok candidates)
    {log : TransferLog} (hto : log.toAddress ∈ toAddresses) :
    selectCandidate log (candidatesForTransferLog stream log candidates)
      = if db.pays stream log then
          (db.orderAt stream log.toAddress).map (fun ow => candidateFromOrderView ow.1 ow.2)
        else none := by
  by_cases hpays : db.pays stream log = true
  · obtain ⟨hchain, htoken, hknown⟩ := pays_eq_true.mp hpays
    obtain ⟨o, w, how⟩ := h.exists_orderAt hknown
    obtain ⟨ho, hw, hwo, haddress, -, -⟩ := orderAt_eq_some how
    obtain ⟨c, hc⟩ := h.candidatesForTransferLog_eq hlookup hto hchain htoken hknown
    obtain ⟨o', ho', w', hw', hwo', haddress', rfl⟩ := h.order_of_candidate hlookup hto
      (hc ▸ List.mem_singleton_self c)
    obtain rfl : o' = o :=
      List.inj_on_of_nodup_map h.addresses ho' ho (haddress'.trans haddress.symm)
    obtain rfl : w' = w := List.inj_on_of_nodup_map h.windowIds hw' hw (hwo'.trans hwo.symm)
    rw [if_pos hpays, hc, selectCandidate_singleton, how]
    rfl
  · rw [if_neg hpays]
    have hnone : candidatesForTransferLog stream log candidates = [] := by
      refine List.eq_nil_iff_forall_not_mem.mpr (fun c hc => hpays ?_)
      obtain ⟨o, ho, w, -, -, haddress, rfl⟩ := h.order_of_candidate hlookup hto hc
      have hcond := (List.mem_filter.mp hc).2
      simp only [Bool.and_eq_true, decide_eq_true_eq] at hcond
      exact pays_eq_true.mpr ⟨hcond.1.2, hcond.2,
        knows_eq_true.mpr ⟨o, ho, hcond.1.1.1.1, hcond.1.1.1.2, haddress⟩⟩
    rw [hnone]
    rfl

end Directory

end PaymentDb

/-! ## What a batch of transfers needs -/

/-- **Transfers the tables take.** Of the transfers that pay orders: each is worth
something, its numbers fit, its place on the chain is not taken by a payment that
went elsewhere, and no order comes to more than its column holds. -/
structure PaymentDb.Takes (db : PaymentDb) (stream : StreamId) (minConfirmations : ℕ)
    (head : ChainBlockRef) (logs : List TransferLog) : Prop where
  amount : ∀ log ∈ logs, db.pays stream log = true → 0 < log.amountRaw.toNat
  logIndex : ∀ log ∈ logs, db.pays stream log = true → log.logIndex ≤ i64Max
  blockNumber : ∀ log ∈ logs, db.pays stream log = true → log.blockNumber ≤ i64Max
  confirmations : ∀ log ∈ logs, db.pays stream log = true →
    head.number < log.blockNumber + i64Max
  free : ∀ log ∈ logs, db.pays stream log = true → ∀ p ∈ db.payments,
    p.key = (stream.chainId, log.position) → p.toAddress = log.toAddress
  once : ∀ log ∈ logs, db.pays stream log = true → ∀ log' ∈ logs, db.pays stream log' = true →
    log.position = log'.position → log.toAddress = log'.toAddress
  total : ∀ o ∈ db.orders, (∃ log ∈ logs, db.pays stream log = true
      ∧ log.toAddress = o.receiveAddress) →
    confirmedOnTimeTotal (upsertAll (logs.filterMap (db.rowOf stream minConfirmations head))
        db.payments) o.id + acceptedProblemPayment db.overrides o.id < numeric78Bound

/-- Ids that are new to the table and not handed out twice. -/
structure FreshIds (newId : ℕ → Uuid) (count : ℕ) (payments : List PaymentRecord) : Prop where
  injective : ∀ i < count, ∀ j < count, newId i = newId j → i = j
  unused : ∀ i < count, ∀ p ∈ payments, p.id ≠ newId i

section Batch

variable {minConfirmations : ℕ} {head : ChainBlockRef} {newId : ℕ → Uuid} {logs : List TransferLog}

/-- The payment a numbered transfer is matched to, with the row it stands for. -/
def PaymentDb.entryOf (db : PaymentDb) (stream : StreamId) (minConfirmations : ℕ)
    (head : ChainBlockRef) (newId : ℕ → Uuid) (entry : TransferLog × ℕ) :
    Option (MatchedPaymentInput × PaymentRecord) :=
  if db.pays stream entry.1 then
    (db.orderAt stream entry.1.toAddress).map (fun ow =>
      (matchedPaymentInput (newId entry.2) entry.1 (candidateFromOrderView ow.1 ow.2) head
        minConfirmations, proposedRow ow.1 ow.2 (matchedPaymentInput (newId entry.2) entry.1
          (candidateFromOrderView ow.1 ow.2) head minConfirmations)))
  else none

/-- The payments of a batch with their rows. -/
def PaymentDb.entries (db : PaymentDb) (stream : StreamId) (minConfirmations : ℕ)
    (head : ChainBlockRef) (newId : ℕ → Uuid) (logs : List TransferLog) :
    List (MatchedPaymentInput × PaymentRecord) :=
  logs.zipIdx.filterMap (db.entryOf stream minConfirmations head newId)

/-- The batch a scan hands over. -/
theorem PaymentDb.Directory.map_fst_entries (h : db.Directory)
    {candidates : List PaymentWindowCandidate}
    (hlookup : logs = [] ∨ lookupPaymentWindowCandidates db stream
      (sortedSet (logs.map (fun log => log.toAddress))) = .ok candidates) :
    (db.entries stream minConfirmations head newId logs).map Prod.fst
      = matchTransferLogs stream minConfirmations logs candidates head newId := by
  rcases hlookup with rfl | hlookup
  · rfl
  · unfold PaymentDb.entries matchTransferLogs
    rw [List.map_filterMap]
    refine List.filterMap_congr (fun entry hentry => ?_)
    have hmem : entry.1 ∈ logs := (List.mem_zipIdx' hentry).2 ▸ List.getElem_mem _
    rw [h.selectCandidate_eq hlookup (mem_sortedSet.mpr (List.mem_map_of_mem hmem))]
    unfold PaymentDb.entryOf
    by_cases hpays : db.pays stream entry.1 = true
    · rw [if_pos hpays, if_pos hpays, Option.map_map, Option.map_map]
      rfl
    · rw [if_neg hpays, if_neg hpays]
      rfl

/-- The rows of a batch are those its transfers stand for. -/
theorem PaymentDb.anonymous_entries :
    (db.entries stream minConfirmations head newId logs).map (fun e => e.2.anonymous)
      = (logs.filterMap (db.rowOf stream minConfirmations head)).map PaymentRecord.anonymous := by
  unfold PaymentDb.entries
  rw [List.map_filterMap, List.map_filterMap]
  have hforget : ∀ entry : TransferLog × ℕ,
      (db.entryOf stream minConfirmations head newId entry).map (fun e => e.2.anonymous)
        = (db.rowOf stream minConfirmations head entry.1).map PaymentRecord.anonymous := by
    intro entry
    unfold PaymentDb.entryOf PaymentDb.rowOf
    by_cases hpays : db.pays stream entry.1 = true
    · rw [if_pos hpays, if_pos hpays, Option.map_map, Option.map_map]
      rfl
    · rw [if_neg hpays, if_neg hpays]
      rfl
  rw [funext hforget]
  calc logs.zipIdx.filterMap
        (fun entry => (db.rowOf stream minConfirmations head entry.1).map PaymentRecord.anonymous)
      = (logs.zipIdx.map Prod.fst).filterMap
          (fun log => (db.rowOf stream minConfirmations head log).map PaymentRecord.anonymous) := by
        rw [List.filterMap_map]
        rfl
    _ = _ := by rw [List.zipIdx_map_fst]

theorem PaymentDb.mem_entries {e : MatchedPaymentInput × PaymentRecord} :
    e ∈ db.entries stream minConfirmations head newId logs
      ↔ ∃ i, ∃ log ∈ logs[i]?, db.pays stream log = true
        ∧ ∃ o w, db.orderAt stream log.toAddress = some (o, w)
          ∧ e.1 = matchedPaymentInput (newId i) log (candidateFromOrderView o w) head
            minConfirmations ∧ e.2 = proposedRow o w e.1 := by
  unfold PaymentDb.entries
  rw [List.mem_filterMap]
  constructor
  · rintro ⟨⟨log, i⟩, hentry, he⟩
    unfold PaymentDb.entryOf at he
    by_cases hpays : db.pays stream log = true
    · rw [if_pos hpays] at he
      obtain ⟨⟨o, w⟩, how, rfl⟩ := Option.map_eq_some_iff.mp he
      exact ⟨i, log, List.mem_zipIdx_iff_getElem?.mp hentry, hpays, o, w, how, rfl, rfl⟩
    · rw [if_neg hpays] at he
      cases he
  · rintro ⟨i, log, hlog, hpays, o, w, how, hm, hrow⟩
    refine ⟨(log, i), List.mem_zipIdx_iff_getElem?.mpr hlog, ?_⟩
    unfold PaymentDb.entryOf
    rw [if_pos hpays, how, Option.map_some, ← hm, ← hrow]

/-- A transfer that pays an order has its entry. -/
theorem PaymentDb.Directory.exists_entry (h : db.Directory) {log : TransferLog} (hlog : log ∈ logs)
    (hpays : db.pays stream log = true) :
    ∃ e ∈ db.entries stream minConfirmations head newId logs, ∃ i o w,
      db.orderAt stream log.toAddress = some (o, w)
        ∧ e.1 = matchedPaymentInput (newId i) log (candidateFromOrderView o w) head
            minConfirmations ∧ e.2 = proposedRow o w e.1 := by
  obtain ⟨i, hi, rfl⟩ := List.mem_iff_getElem.mp hlog
  obtain ⟨o, w, how⟩ := h.exists_orderAt (pays_eq_true.mp hpays).2.2
  let m := matchedPaymentInput (newId i) logs[i] (candidateFromOrderView o w) head minConfirmations
  exact ⟨(m, proposedRow o w m), PaymentDb.mem_entries.mpr ⟨i, _, List.getElem?_eq_getElem hi, hpays,
    o, w, how, rfl, rfl⟩, i, o, w, how, rfl, rfl⟩

/-- The entries are those the upserts propose. -/
theorem PaymentDb.Directory.storedRow_entries (h : db.Directory)
    {e : MatchedPaymentInput × PaymentRecord}
    (he : e ∈ db.entries stream minConfirmations head newId logs) :
    db.storedRow stream e.1 = some e.2 := by
  obtain ⟨i, log, -, -, o, w, how, hm, hrow⟩ := PaymentDb.mem_entries.mp he
  unfold PaymentDb.storedRow
  rw [h.matchedOrder_of_orderAt how (by rw [hm]; rfl) (by rw [hm]; rfl), Option.map_some, hrow]

/-- Fresh ids make the payments of a batch new and different. -/
theorem FreshIds.entries (h : FreshIds newId logs.length db.payments) :
    (∀ e ∈ db.entries stream minConfirmations head newId logs, ∀ p ∈ db.payments, p.id ≠ e.1.id)
      ∧ (db.entries stream minConfirmations head newId logs).Pairwise
        (fun e e' => e.1.id ≠ e'.1.id) := by
  constructor
  · intro e he p hp
    obtain ⟨i, log, hlog, -, o, w, -, hm, -⟩ := PaymentDb.mem_entries.mp he
    rw [hm]
    exact h.unused i (List.getElem?_eq_some_iff.mp hlog).1 p hp
  · have hindex : logs.zipIdx.Pairwise (fun a b => a.2 ≠ b.2) := by
      have hnd : (logs.zipIdx.map Prod.snd).Nodup := by
        rw [List.zipIdx_map_snd]
        exact List.nodup_range'
      exact List.pairwise_map.mp hnd
    refine List.pairwise_filterMap.mpr (hindex.imp_of_mem (fun {a b} ha hb hne e he e' he' => ?_))
    have hid : ∀ {x : TransferLog × ℕ} {e : MatchedPaymentInput × PaymentRecord},
        db.entryOf stream minConfirmations head newId x = some e → e.1.id = newId x.2 := by
      intro x e hx
      unfold PaymentDb.entryOf at hx
      split at hx
      · obtain ⟨ow, -, rfl⟩ := Option.map_eq_some_iff.mp hx
        rfl
      · cases hx
    have hlt : ∀ {x : TransferLog × ℕ}, x ∈ logs.zipIdx → x.2 < logs.length := by
      intro x hx
      exact (List.getElem?_eq_some_iff.mp (List.mem_zipIdx_iff_getElem?.mp hx)).1
    rw [hid he, hid he']
    exact fun hc => hne (h.injective a.2 (hlt ha) b.2 (hlt hb) hc)

/-- The numbers of a matched payment are those of its transfer. -/
theorem fits_matchedPaymentInput {id : Uuid} {log : TransferLog} {c : PaymentWindowCandidate} :
    (matchedPaymentInput id log c head minConfirmations).Fits ↔ log.logIndex ≤ i64Max
      ∧ log.blockNumber ≤ i64Max ∧ head.number < log.blockNumber + i64Max
      ∧ 0 < log.amountRaw.toNat := by
  have hconf : (matchedPaymentInput id log c head minConfirmations).confirmations ≤ i64Max
      ↔ head.number < log.blockNumber + i64Max := by
    show ((ChainBlockRef.confirmationsAgainst ⟨log.blockNumber, log.blockHash⟩ head).getD 0) ≤ _ ↔ _
    unfold ChainBlockRef.confirmationsAgainst
    dsimp only
    split
    · rw [Option.getD_none]
      omega
    · rw [Option.getD_some]
      omega
  constructor
  · exact fun h => ⟨h.logIndex, h.blockNumber, hconf.mp h.confirmations, h.amount⟩
  · exact fun h => ⟨h.1, h.2.1, hconf.mpr h.2.2.1, h.2.2.2⟩

/-- A stored payment has the target of an order exactly when it went to its
address. -/
theorem PaymentDb.Schema.sameTarget_iff (h : db.Schema) {p : PaymentRecord} (hp : p ∈ db.payments)
    {address : EvmAddress} {o : OrderRecord} {w : PaymentWindowRecord}
    (how : db.orderAt stream address = some (o, w)) {m : MatchedPaymentInput}
    (hto : m.toAddress = address) :
    sameTarget p (proposedRow o w m) = true ↔ p.toAddress = address := by
  obtain ⟨ho, -, -, haddress, -, -⟩ := orderAt_eq_some how
  rw [sameTarget_eq_true]
  constructor
  · rintro ⟨-, -, -, hsame⟩
    exact hsame.trans hto
  · intro hsame
    obtain ⟨o', ho', hid, hchain, htoken, hreceive⟩ := h.references p hp
    obtain rfl : o' = o := List.inj_on_of_nodup_map h.directory.addresses ho' ho
      ((hreceive.trans hsame).trans haddress.symm)
    exact ⟨hid.symm, hchain.symm, htoken.symm, hsame.trans hto.symm⟩

/-- **The entries are acceptable when the transfers are.** -/
theorem PaymentDb.Schema.acceptable_iff (h : db.Schema) :
    Acceptable db.payments (db.entries stream minConfirmations head newId logs)
      ↔ (∀ log ∈ logs, db.pays stream log = true → log.logIndex ≤ i64Max
          ∧ log.blockNumber ≤ i64Max ∧ head.number < log.blockNumber + i64Max
          ∧ 0 < log.amountRaw.toNat)
        ∧ (∀ log ∈ logs, db.pays stream log = true → ∀ p ∈ db.payments,
          p.key = (stream.chainId, log.position) → p.toAddress = log.toAddress)
        ∧ ∀ log ∈ logs, db.pays stream log = true → ∀ log' ∈ logs, db.pays stream log' = true →
          log.position = log'.position → log.toAddress = log'.toAddress := by
  have hkey : ∀ {log : TransferLog} {i : ℕ} {o : OrderRecord} {w : PaymentWindowRecord},
      db.orderAt stream log.toAddress = some (o, w) →
        (proposedRow o w (matchedPaymentInput (newId i) log (candidateFromOrderView o w) head
          minConfirmations)).key = (stream.chainId, log.position) := by
    intro log i o w how
    obtain ⟨-, -, -, -, hchain, -⟩ := orderAt_eq_some how
    rw [← hchain]
    rfl
  constructor
  · intro hall
    refine ⟨fun log hlog hpays => ?_, fun log hlog hpays p hp hk => ?_,
      fun log hlog hpays log' hlog' hpays' hpos => ?_⟩
    · obtain ⟨e, he, i, o, w, how, hm, -⟩ := h.directory.exists_entry hlog hpays
      exact fits_matchedPaymentInput.mp (hm ▸ hall.fits e he)
    · obtain ⟨e, he, i, o, w, how, hm, hrow⟩ := h.directory.exists_entry hlog hpays
      rw [hm] at hrow
      have hsame := hall.free e he p hp (by rw [hk, hrow, hkey how])
      rw [hrow] at hsame
      exact (h.sameTarget_iff hp how rfl).mp hsame
    · obtain ⟨e, he, i, o, w, how, hm, hrow⟩ := h.directory.exists_entry hlog hpays
      obtain ⟨e', he', i', o', w', how', hm', hrow'⟩ := h.directory.exists_entry hlog' hpays'
      rw [hm] at hrow
      rw [hm'] at hrow'
      have hsame := hall.sameTarget_of_key he he' (by rw [hrow, hrow', hkey how, hkey how', hpos])
      rw [hrow, hrow', sameTarget_eq_true] at hsame
      exact hsame.2.2.2
  · rintro ⟨hfits, hfree, honce⟩
    refine ⟨fun e he => ?_, fun e he p hp hk => ?_,
      List.pairwise_of_forall_mem_list (fun e he e' he' hk => ?_)⟩
    · obtain ⟨i, log, hlog, hpays, o, w, how, hm, -⟩ := PaymentDb.mem_entries.mp he
      rw [hm]
      exact fits_matchedPaymentInput.mpr (hfits log (List.mem_of_getElem? hlog) hpays)
    · obtain ⟨i, log, hlog, hpays, o, w, how, hm, hrow⟩ := PaymentDb.mem_entries.mp he
      rw [hm] at hrow
      rw [hrow] at hk ⊢
      exact (h.sameTarget_iff hp how rfl).mpr
        (hfree log (List.mem_of_getElem? hlog) hpays p hp (hk.trans (hkey how)))
    · obtain ⟨i, log, hlog, hpays, o, w, how, hm, hrow⟩ := PaymentDb.mem_entries.mp he
      obtain ⟨i', log', hlog', hpays', o', w', how', hm', hrow'⟩ := PaymentDb.mem_entries.mp he'
      rw [hm] at hrow
      rw [hm'] at hrow'
      rw [hrow, hrow', hkey how, hkey how'] at hk
      have hto := honce log (List.mem_of_getElem? hlog) hpays log' (List.mem_of_getElem? hlog')
        hpays' (congrArg Prod.snd hk)
      -- one address, one order
      rw [hto, how'] at how
      obtain ⟨rfl, rfl⟩ := Prod.mk.inj (Option.some.inj how)
      rw [hrow, hrow']
      exact sameTarget_eq_true.mpr ⟨rfl, rfl, rfl, hto⟩

end Batch

/-! ## The batch of a scan -/

/-- The orders a batch pays are those at the addresses its transfers went to. -/
theorem PaymentDb.Directory.mem_orderIds_entries (h : db.Directory) {minConfirmations : ℕ}
    {head : ChainBlockRef} {newId : ℕ → Uuid} {logs : List TransferLog} {o : OrderRecord}
    (ho : o ∈ db.orders) :
    o.id ∈ (db.entries stream minConfirmations head newId logs).map (fun e => e.2.orderId)
      ↔ ∃ log ∈ logs, db.pays stream log = true ∧ log.toAddress = o.receiveAddress := by
  rw [List.mem_map]
  constructor
  · rintro ⟨e, he, hid⟩
    obtain ⟨i, log, hlog, hpays, o', w, how, -, hrow⟩ := PaymentDb.mem_entries.mp he
    obtain ⟨ho', -, -, haddress, -, -⟩ := orderAt_eq_some how
    rw [hrow] at hid
    obtain rfl : o' = o := List.inj_on_of_nodup_map h.ids ho' ho hid
    exact ⟨log, List.mem_of_getElem? hlog, hpays, haddress.symm⟩
  · rintro ⟨log, hlog, hpays, haddress⟩
    obtain ⟨e, he, i, o', w, how, -, hrow⟩ := h.exists_entry hlog hpays
    obtain ⟨ho', -, -, haddress', -, -⟩ := orderAt_eq_some how
    obtain rfl : o' = o :=
      List.inj_on_of_nodup_map h.addresses ho' ho (haddress'.trans haddress)
    exact ⟨e, he, by rw [hrow]; rfl⟩

/-- After the upserts of a batch the recompute goes through when the orders it pays
come to amounts that fit. -/
theorem PaymentDb.Directory.recompute_isOk (h : db.Directory) {minConfirmations : ℕ}
    {head : ChainBlockRef} {newId : ℕ → Uuid} {logs : List TransferLog} {now : Timestamp}
    {records : List PaymentRecord} {db₁ : PaymentDb}
    (hup : upsertMatchedPayments db ((db.entries stream minConfirmations head newId logs).map
      (fun e => (stream, e.1))) = .ok (records, db₁)) :
    (∃ db₂, recomputeOrdersInTx db₁ now (sortedSet (records.map PaymentRecord.orderId)) = .ok db₂)
      ↔ ∀ o ∈ db.orders, (∃ log ∈ logs, db.pays stream log = true
          ∧ log.toAddress = o.receiveAddress) →
        confirmedOnTimeTotal (upsertAll (logs.filterMap (db.rowOf stream minConfirmations head))
          db.payments) o.id + acceptedProblemPayment db.overrides o.id < numeric78Bound := by
  obtain ⟨hrecords, hrows⟩ := rows_of_upserts (fun e he => h.storedRow_entries he) hup
  have hframe := upsertMatchedPayments_frame hup
  have horders : db₁.orders = db.orders := by rw [hframe]
  have hoverrides : db₁.overrides = db.overrides := by rw [hframe]
  -- the orders written to are those of the entries
  have hids : records.map PaymentRecord.orderId
      = (db.entries stream minConfirmations head newId logs).map (fun e => e.2.orderId) := by
    have hmap := congrArg (List.map PaymentRecord.orderId) hrecords
    rw [List.map_map, List.map_map] at hmap
    exact hmap
  -- and the table adds up as the rows of the transfers do
  have htotal : ∀ id, confirmedOnTimeTotal db₁.payments id = confirmedOnTimeTotal
      (upsertAll (logs.filterMap (db.rowOf stream minConfirmations head)) db.payments) id := by
    intro id
    refine totalWhere_eq_of_anonymous (fun _ => rfl) ?_ id
    have hentries := @PaymentDb.anonymous_entries db stream minConfirmations head newId logs
    rw [hrows, map_anonymous_upsertAll, map_anonymous_upsertAll, List.map_map, ← hentries]
    rfl
  have hfound : ∀ id ∈ sortedSet (records.map PaymentRecord.orderId), ∃ o ∈ db₁.orders,
      o.id = id := by
    intro id hid
    rw [mem_sortedSet, hids, List.mem_map] at hid
    obtain ⟨e, he, rfl⟩ := hid
    obtain ⟨i, log, -, -, o, w, how, -, hrow⟩ := PaymentDb.mem_entries.mp he
    exact ⟨o, horders ▸ (orderAt_eq_some how).1, by rw [hrow]; rfl⟩
  rw [recomputeOrdersInTx_isOk (horders ▸ h.ids) (nodup_sortedSet _) hfound]
  unfold PaymentDb.RecomputeFits
  rw [horders, hids]
  refine forall₂_congr (fun o ho => ?_)
  rw [mem_sortedSet, h.mem_orderIds_entries ho]
  refine imp_congr Iff.rfl ?_
  rw [← htotal, ← hoverrides]
  rfl

/-- **What `match_range` makes of an answer is committed exactly when the tables
take its transfers.** -/
theorem PaymentDb.Schema.commit_isOk (hdb : db.Schema) {cfg : PaymentScannerConfig}
    {source : ChainSource} {newId : ℕ → Uuid} {now : Timestamp} {fromBlock toBlock : ℕ}
    {batch : CommitScannedBatch} {logs : List TransferLog} {head : ChainBlockRef}
    {matched : List MatchedPaymentInput}
    (hlogs : source.transferLogs
      ⟨cfg.stream.chainId, cfg.stream.tokenAddress, fromBlock, toBlock, none⟩ = .ok logs)
    (hhead : source.latestHead = .ok head)
    (hmatch : matchRange cfg source db newId fromBlock toBlock = .ok matched)
    (hids : FreshIds newId logs.length db.payments) (hstream : batch.stream = cfg.stream)
    (hpayments : batch.matchedPayments = matched) (hcheck : CursorAsExpected db batch) :
    (∃ result, commitScannedBatch db now batch = .ok result)
      ↔ db.Takes cfg.stream cfg.minConfirmations head logs := by
  obtain ⟨logs', head', candidates, hlogs', hhead', hlookup, hmatched⟩ := matchRange_eq_ok hmatch
  rw [hlogs] at hlogs'
  rw [hhead] at hhead'
  obtain rfl := Except.ok.inj hlogs'
  obtain rfl := Except.ok.inj hhead'
  have hdir := hdb.directory
  have hinputs : batch.matchedPayments.map (fun p => (batch.stream, p))
      = (db.entries cfg.stream cfg.minConfirmations head newId logs).map
        (fun e => (cfg.stream, e.1)) := by
    rw [hpayments, hmatched, ← hdir.map_fst_entries hlookup, hstream, List.map_map]
    rfl
  obtain ⟨hfresh, hdiffer⟩ :=
    @FreshIds.entries db cfg.stream cfg.minConfirmations head newId logs hids
  have hupserts := upsertMatchedPayments_isOk (fun e he => hdir.storedRow_entries he)
    (hstream ▸ hcheck.chainId) hdb.keys hfresh hdiffer
  rw [hdb.acceptable_iff] at hupserts
  rw [commitScannedBatch_isOk hcheck, hinputs]
  constructor
  · rintro ⟨records, db₁, hup, hre⟩
    obtain ⟨hfits, hfree, honce⟩ := hupserts.mp ⟨_, hup⟩
    exact ⟨fun log hlog hpays => (hfits log hlog hpays).2.2.2,
      fun log hlog hpays => (hfits log hlog hpays).1,
      fun log hlog hpays => (hfits log hlog hpays).2.1,
      fun log hlog hpays => (hfits log hlog hpays).2.2.1, hfree, honce,
      (hdir.recompute_isOk hup).mp hre⟩
  · intro h
    obtain ⟨⟨records, db₁⟩, hup⟩ := hupserts.mpr ⟨fun log hlog hpays => ⟨h.logIndex log hlog hpays,
      h.blockNumber log hlog hpays, h.confirmations log hlog hpays, h.amount log hlog hpays⟩,
      h.free, h.once⟩
    exact ⟨records, db₁, hup, (hdir.recompute_isOk hup).mpr h.total⟩

/-- **A batch is stored exactly when the tables take its transfers.** For any
answer of the node for which `match_range` answers, the payments it makes of it,
under new ids and past the cursor check, are committed and the cursor moves over the range if and
only if the transfers to orders are worth something, their numbers fit, none has
the place of a payment that went to another address, and no order comes to more
than its column holds. -/
theorem batch_advances_iff (cfg : PaymentScannerConfig) (source : ChainSource) (db : PaymentDb)
    (newId : ℕ → Uuid) (now : Timestamp) (fromBlock toBlock : ℕ) (batch : CommitScannedBatch)
    {logs : List TransferLog} {head : ChainBlockRef} {matched : List MatchedPaymentInput}
    (hdb : db.Schema)
    (hlogs : source.transferLogs
      ⟨cfg.stream.chainId, cfg.stream.tokenAddress, fromBlock, toBlock, none⟩ = .ok logs)
    (hhead : source.latestHead = .ok head)
    (hmatch : matchRange cfg source db newId fromBlock toBlock = .ok matched)
    (hids : FreshIds newId logs.length db.payments)
    (hbatch : batch.stream = cfg.stream ∧ batch.matchedPayments = matched)
    (hcheck : CursorAsExpected db batch) :
    Advances db now batch ↔ db.Takes cfg.stream cfg.minConfirmations head logs := by
  rw [← @PaymentDb.Schema.commit_isOk db hdb cfg source newId now fromBlock toBlock batch logs head
    matched hlogs hhead hmatch hids hbatch.1 hbatch.2 hcheck]
  constructor
  · rintro ⟨records, db', hcommit, -⟩
    exact ⟨(records, db'), hcommit⟩
  · rintro ⟨⟨records, db'⟩, hcommit⟩
    exact ⟨records, db', hcommit, lastScannedBlock_of_commit hcommit⟩

namespace SmallScanner

/-- The tables with the cursor claimed. -/
def claimedDb : PaymentDb :=
  (initial deepChain).db.updateCursor config.stream (ChainCursor.leased "scanner" (seconds 30))

/-- The batch of block 1. -/
def firstBatch (matched : List MatchedPaymentInput) : CommitScannedBatch :=
  ⟨config.stream, "scanner", 0, 1, 0, matched⟩

/-- A transfer of nothing to the order, in block 1. -/
def emptyTransferChain : CanonicalChain where
  blocks := [genesis, ⟨1, 0xa1, 1, [(0x77, .success)], [{ transfer with amountRaw := 0 }]⟩]
  nonempty := by simp
  numbered := by decide
  mined_once := by decide
  logged_once := by decide

theorem claimedDb_schema : claimedDb.Schema := by
  refine ⟨⟨by decide, by decide, by decide, ?_, ?_⟩, by decide, ?_⟩
  · intro o ho
    rw [List.mem_singleton.mp ho]
    exact ⟨_, List.mem_cons_self, rfl⟩
  · intro w hw o ho _
    rw [List.mem_singleton.mp hw, List.mem_singleton.mp ho]
    rfl
  · exact fun p hp => absurd hp List.not_mem_nil

theorem firstBatch_check (matched : List MatchedPaymentInput) :
    CursorAsExpected claimedDb (firstBatch matched) where
  ordered := Nat.zero_le 1
  chainId := show 1 ≤ i64Max by decide
  completeToBlock := show 1 ≤ i64Max by decide
  epoch := Nat.zero_le i64Max
  cursor := ⟨_, rfl, rfl, rfl, rfl⟩

end SmallScanner

open SmallScanner in
/-- The payment of block 1 is stored, and the cursor moves to block 1. -/
theorem batch_advances_one_payment : Advances claimedDb 0 (firstBatch [foundPayment 0xf0]) := by
  have hlogs : (deepChain.source ⟨2, 0xa2⟩).transferLogs ⟨1, 0x70, 1, 1, none⟩
      = .ok [⟨⟨transfer, 1, 0xa1⟩, 1, 1⟩] := by decide +kernel
  have hmatch : matchRange config (deepChain.source ⟨2, 0xa2⟩) claimedDb (fun _ => 0xf0) 1 1
      = .ok [foundPayment 0xf0] := by decide +kernel
  refine (batch_advances_iff config (deepChain.source ⟨2, 0xa2⟩) claimedDb (fun _ => 0xf0) 0 1 1
    (firstBatch [foundPayment 0xf0]) claimedDb_schema hlogs rfl hmatch ?_ ⟨rfl, rfl⟩
    (firstBatch_check _)).mpr ?_
  · refine ⟨fun i hi j hj _ => ?_, fun i _ p hp => absurd hp List.not_mem_nil⟩
    rw [List.length_singleton, Nat.lt_one_iff] at hi hj
    rw [hi, hj]
  · exact ⟨by decide, by decide, by decide, by decide, by decide, by decide, by decide +kernel⟩

open SmallScanner in
/-- **A transfer of nothing stops the scanner.** It is matched to the order like any
other, and the check on its amount rejects the batch. -/
theorem empty_transfer_rejected : ∃ matched,
    matchRange config (emptyTransferChain.source ⟨1, 0xa1⟩) claimedDb (fun _ => 0xf0) 1 1
        = .ok matched
      ∧ claimedDb.Schema ∧ CursorAsExpected claimedDb (firstBatch matched)
      ∧ ¬ Advances claimedDb 0 (firstBatch matched) := by
  refine ⟨[matchedPaymentInput 0xf0 ⟨⟨{ transfer with amountRaw := 0 }, 1, 0xa1⟩, 1, 1⟩
    (candidateFromOrderView order ⟨0xd1, 0xc1, ⟨0, 0x90⟩, 10, 20⟩) ⟨1, 0xa1⟩ 2],
    by decide +kernel, claimedDb_schema, firstBatch_check _, ?_⟩
  rintro ⟨records, db', h, -⟩
  have hrejected : commitScannedBatch claimedDb 0 (firstBatch [matchedPaymentInput 0xf0
      ⟨⟨{ transfer with amountRaw := 0 }, 1, 0xa1⟩, 1, 1⟩
      (candidateFromOrderView order ⟨0xd1, 0xc1, ⟨0, 0x90⟩, 10, 20⟩) ⟨1, 0xa1⟩ 2])
      = .error (.database (.checkViolation "payments_amount_raw_check")) := by decide +kernel
  rw [hrejected] at h
  cases h
