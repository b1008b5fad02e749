import Mathlib.Data.List.Find
import Pay3.FilteredTables
import Pay3.OrderRows
import Pay3.OwnerRequests

/-!
# What of the database is an owner's

An owner's part of the database is the rows with the owner's `owner_sub`, and
the windows, payments, overrides and child accounts of those orders. A principal
acts for the owner its trimmed subject names, and a row is its owner's whether
or not its `owner_sub` was trimmed when it was stored.

Identifiers are drawn at random and addresses derived from segments that are
handed out once, so each comes to belong to one owner. `Holders` says which: a
row that is stored has identifiers of its owner (`Tenanted`). This is what keeps
the unique indexes, which are over all rows, from telling one owner of
another's.

Every read of the API that goes by an identifier of the owner, or by the owner's
`owner_sub`, finds the same in the part as in the whole; and each of the three
transactions does to the part what it does to the whole, and leaves the parts of
the other owners as they are.
-/

/-- **Whose identifiers, addresses and segments are whose.** -/
structure Holders where
  order : Uuid → String
  account : Uuid → String
  address : EvmAddress → String
  segment : String → ℕ → DerivationSegment → String
  window : Uuid → String
  collection : Uuid → String

variable {h : Holders} {owner : String}

/-- **The payment tables of an owner.** -/
def PaymentDb.only (h : Holders) (owner : String) (db : PaymentDb) : PaymentDb :=
  { db with
    orders := db.orders.filter (fun o => decide (trimText o.ownerSub = owner))
    windows := db.windows.filter (fun w => decide (h.order w.orderId = owner))
    overrides := db.overrides.filter (fun ov => decide (h.order ov.orderId = owner))
    payments := db.payments.filter (fun p => decide (h.order p.orderId = owner)) }

/-- **The collector's tables of an owner.** -/
def CollectorDb.only (h : Holders) (owner : String) (db : CollectorDb) : CollectorDb :=
  { db with
    collections := db.collections.filter (fun c => decide (trimText c.ownerSub = owner))
    childAccounts := db.childAccounts.filter (fun a => decide (h.account a.id = owner))
    orders := db.orders.filter (fun o => decide (trimText o.ownerSub = owner)) }

/-- The orders of an owner, as the collector reads them. -/
theorem filter_collectable (owner : String) (orders : List OrderRecord) :
    (orders.map OrderRecord.collectable).filter (fun o => decide (trimText o.ownerSub = owner))
      = (orders.filter (fun o => decide (trimText o.ownerSub = owner))).map
        OrderRecord.collectable := by
  have hsub : ∀ o : OrderRecord, o.collectable.ownerSub = o.ownerSub := fun _ => rfl
  induction orders with
  | nil => rfl
  | cons o orders ih =>
    rw [List.map_cons, List.filter_cons, List.filter_cons, hsub, ih]
    split <;> rfl

/-- **An owner's part of the database.** -/
def LedgerDb.only (h : Holders) (owner : String) (db : LedgerDb) : LedgerDb where
  payment := db.payment.only h owner
  orderKeys := db.orderKeys.filter (fun k => decide (trimText k.ownerSub = owner))
  collector := db.collector.only h owner
  orders_eq := by
    show db.collector.orders.filter _ = (db.payment.orders.filter _).map OrderRecord.collectable
    rw [db.orders_eq, filter_collectable]

/-- Two databases with the same tables. -/
theorem LedgerDb.ext_tables {db db' : LedgerDb} (hpayment : db.payment = db'.payment)
    (hkeys : db.orderKeys = db'.orderKeys) (hcollector : db.collector = db'.collector) :
    db = db' := by
  obtain ⟨payment, orderKeys, collector, horders⟩ := db
  obtain ⟨payment', orderKeys', collector', horders'⟩ := db'
  obtain rfl : payment = payment' := hpayment
  obtain rfl : orderKeys = orderKeys' := hkeys
  obtain rfl : collector = collector' := hcollector
  rfl

/-- The part with other payment tables. -/
theorem LedgerDb.setPayment_only (db : LedgerDb) (payment : PaymentDb) :
    (db.setPayment payment).only h owner = (db.only h owner).setPayment (payment.only h owner) := by
  refine LedgerDb.ext_tables rfl rfl ?_
  exact congrArg (fun orders => { (db.only h owner).collector with orders := orders })
    (filter_collectable owner payment.orders)

/-- Writing back the payment tables that were read changes nothing. -/
theorem LedgerDb.setPayment_payment_self (db : LedgerDb) : db.setPayment db.payment = db := by
  refine LedgerDb.ext_tables rfl rfl ?_
  show CollectorDb.mk _ _ _ _ _ _ _ = db.collector
  rw [← db.orders_eq]

/-- An order whose identifiers are its owner's. -/
structure OrderRecord.HeldBy (h : Holders) (o : OrderRecord) (owner : String) : Prop where
  ownerSub : trimText o.ownerSub = owner
  id : h.order o.id = owner
  account : h.account o.childAccountId = owner
  address : h.address o.receiveAddress = owner

/-- **A database whose rows have the identifiers of their owners**, with the index
on active collections. -/
structure LedgerDb.Tenanted (h : Holders) (db : LedgerDb) : Prop where
  orders : ∀ o ∈ db.payment.orders, o.HeldBy h (trimText o.ownerSub)
  keys : ∀ k ∈ db.orderKeys, h.order k.orderId = trimText k.ownerSub
    ∧ h.window k.windowId = trimText k.ownerSub
  accounts : ∀ a ∈ db.collector.childAccounts, h.address a.address = h.account a.id
    ∧ h.segment a.signerKeyRef a.derivationVersion a.derivationSegment = h.account a.id
  collections : ∀ c ∈ db.collector.collections, h.collection c.id = trimText c.ownerSub
    ∧ h.order c.orderId = trimText c.ownerSub ∧ h.account c.childAccountId = trimText c.ownerSub
  active : CollectorDb.activePerChild db.collector.collections = true

/-! ## Reads -/

section Reads

variable {db : LedgerDb}

/-- An order with one of the owner's identifiers is the owner's. -/
theorem LedgerDb.Tenanted.owner_of_id (ht : db.Tenanted h) {o : OrderRecord}
    (ho : o ∈ db.payment.orders) (hid : h.order o.id = owner) : trimText o.ownerSub = owner :=
  (ht.orders o ho).id.symm.trans hid

/-- The lookup of an order, with an owner or by an identifier of the owner. -/
theorem find?_orders_only (ht : db.Tenanted h) {id : Uuid} {ownerSub : Option String}
    (hmine : (∃ sub, ownerSub = some sub ∧ trimText sub = owner) ∨ h.order id = owner) :
    (db.only h owner).payment.orders.find? (fun o => decide (o.id = id)
        && ownerSub.all (fun sub => decide (o.ownerSub = sub)))
      = db.payment.orders.find? (fun o => decide (o.id = id)
        && ownerSub.all (fun sub => decide (o.ownerSub = sub))) := by
  refine find?_filter_of_imp (fun o ho hp => decide_eq_true ?_)
  obtain ⟨hid, hsub⟩ := (Bool.and_eq_true _ _).mp hp
  obtain ⟨sub, rfl, hsub'⟩ | hid' := hmine
  · rw [of_decide_eq_true hsub]
    exact hsub'
  · exact ht.owner_of_id ho (of_decide_eq_true hid ▸ hid')

/-- What was found is the owner's. -/
theorem heldBy_of_find? (ht : db.Tenanted h) {id : Uuid} {ownerSub : Option String}
    {o : OrderRecord} (ho : db.payment.orders.find? (fun o => decide (o.id = id)
        && ownerSub.all (fun sub => decide (o.ownerSub = sub))) = some o)
    (hmine : (∃ sub, ownerSub = some sub ∧ trimText sub = owner) ∨ h.order id = owner) :
    o.HeldBy h owner ∧ o.id = id := by
  have hheld := ht.orders o (List.mem_of_find?_eq_some ho)
  have hp := List.find?_some ho
  obtain ⟨hid, hsub⟩ := (Bool.and_eq_true _ _).mp hp
  have hid : o.id = id := of_decide_eq_true hid
  obtain ⟨sub, rfl, hsub'⟩ | hid' := hmine
  · have hown : trimText o.ownerSub = owner := by
      rw [of_decide_eq_true hsub]
      exact hsub'
    exact ⟨hown ▸ hheld, hid⟩
  · exact ⟨ht.owner_of_id (List.mem_of_find?_eq_some ho) (hid ▸ hid') ▸ hheld, hid⟩

/-- **The view of an order** is the same in the owner's part. -/
theorem fetchOrderView_only (ht : db.Tenanted h) {id : Uuid} {ownerSub : Option String}
    (hmine : (∃ sub, ownerSub = some sub ∧ trimText sub = owner) ∨ h.order id = owner) :
    fetchOrderView (db.only h owner) id ownerSub = fetchOrderView db id ownerSub := by
  unfold fetchOrderView
  rw [find?_orders_only ht hmine]
  cases ho : db.payment.orders.find? (fun o => decide (o.id = id)
      && ownerSub.all (fun sub => decide (o.ownerSub = sub))) with
  | none => rfl
  | some o =>
    obtain ⟨hheld, -⟩ := heldBy_of_find? ht ho hmine
    have hkey : (db.only h owner).orderKeys.find? (fun k => decide (k.orderId = o.id))
        = db.orderKeys.find? (fun k => decide (k.orderId = o.id)) := by
      refine find?_filter_of_imp (fun k hk hp => decide_eq_true ?_)
      rw [← (ht.keys k hk).1, of_decide_eq_true hp, hheld.id]
    have haccount : (db.only h owner).collector.childAccounts.find?
          (fun a => decide (a.id = o.childAccountId))
        = db.collector.childAccounts.find? (fun a => decide (a.id = o.childAccountId)) := by
      refine find?_filter_of_imp (fun a _ hp => decide_eq_true ?_)
      rw [of_decide_eq_true hp, hheld.account]
    have hwindow : (db.only h owner).payment.windows.find? (fun w => decide (w.orderId = o.id))
        = db.payment.windows.find? (fun w => decide (w.orderId = o.id)) := by
      refine find?_filter_of_imp (fun w _ hp => decide_eq_true ?_)
      rw [of_decide_eq_true hp, hheld.id]
    dsimp only
    rw [hkey, haccount, hwindow]

/-- The order of a view is the owner's. -/
theorem heldBy_of_fetchOrderView (ht : db.Tenanted h) {id : Uuid} {ownerSub : Option String}
    {view : OrderView} (hview : fetchOrderView db id ownerSub = .ok (some view))
    (hmine : (∃ sub, ownerSub = some sub ∧ trimText sub = owner) ∨ h.order id = owner) :
    view.order.HeldBy h owner := by
  unfold fetchOrderView at hview
  split at hview
  · cases hview
  · rename_i o ho
    split at hview
    · obtain ⟨o', ho', heq⟩ := Except.map_eq_ok.mp hview
      obtain rfl := Option.some.inj heq
      obtain rfl := rowToOrderRecord_eq_ok ho'
      exact (heldBy_of_find? ht ho hmine).1
    · cases hview

/-- A child account of the owner is in the owner's part. -/
theorem any_accounts_only {id : Uuid} (hid : h.account id = owner) :
    (db.only h owner).collector.childAccounts.any (fun a => decide (a.id = id))
      = db.collector.childAccounts.any (fun a => decide (a.id = id)) := by
  refine any_filter_of_imp (fun a _ hp => decide_eq_true ?_)
  rw [of_decide_eq_true hp, hid]

/-- A payment window of the owner is in the owner's part. -/
theorem any_windows_only {id : Uuid} (hid : h.order id = owner) :
    (db.only h owner).payment.windows.any (fun w => decide (w.orderId = id))
      = db.payment.windows.any (fun w => decide (w.orderId = id)) := by
  refine any_filter_of_imp (fun w _ hp => decide_eq_true ?_)
  rw [of_decide_eq_true hp, hid]

/-- Whether the collection service is shown an order. -/
def LedgerDb.shows (db : LedgerDb) (id : Uuid) (ownerSub : Option String) (o : OrderRecord) :
    Bool :=
  decide (o.id = id) && ownerSub.all (fun owner => decide (o.ownerSub = owner))
    && db.collector.childAccounts.any (fun a => decide (a.id = o.childAccountId))
    && db.payment.windows.any (fun w => decide (w.orderId = o.id))

theorem getOrderView_eq_shows (db : LedgerDb) (id : Uuid) (ownerSub : Option String) :
    getOrderView db id ownerSub
      = match db.payment.orders.find? (db.shows id ownerSub) with
        | none => .ok none
        | some o => (rowToOrderRecord o).map some := rfl

theorem LedgerDb.shows_some {id : Uuid} {sub : String} {o : OrderRecord}
    (ho : db.shows id (some sub) o = true) : o.ownerSub = sub := by
  unfold LedgerDb.shows at ho
  simp only [Bool.and_eq_true, Option.all_some, decide_eq_true_eq] at ho
  exact ho.1.1.2

/-- The order as the collection service reads it. -/
theorem getOrderView_only (ht : db.Tenanted h) {id : Uuid} {sub : String}
    (hsub : trimText sub = owner) :
    getOrderView (db.only h owner) id (some sub) = getOrderView db id (some sub) := by
  have hown : ∀ o, db.shows id (some sub) o = true → trimText o.ownerSub = owner := by
    intro o ho
    rw [LedgerDb.shows_some ho]
    exact hsub
  have hshows : ∀ o ∈ (db.only h owner).payment.orders,
      (db.only h owner).shows id (some sub) o = db.shows id (some sub) o := by
    intro o ho
    obtain ⟨hmem, hq⟩ := List.mem_filter.mp ho
    have hheld := ht.orders o hmem
    rw [of_decide_eq_true hq] at hheld
    unfold LedgerDb.shows
    rw [any_accounts_only hheld.account, any_windows_only hheld.id]
  have hfind : (db.only h owner).payment.orders.find? ((db.only h owner).shows id (some sub))
      = db.payment.orders.find? (db.shows id (some sub)) :=
    (List.find?_congr hshows).trans
      (find?_filter_of_imp (fun o _ hp => decide_eq_true (hown o hp)))
  rw [getOrderView_eq_shows, getOrderView_eq_shows, hfind]

/-- The order the collection service reads is the owner's. -/
theorem heldBy_of_getOrderView (ht : db.Tenanted h) {id : Uuid} {sub : String} {o : OrderRecord}
    (hview : getOrderView db id (some sub) = .ok (some o)) (hsub : trimText sub = owner) :
    o.HeldBy h owner := by
  rw [getOrderView_eq_shows] at hview
  split at hview
  · cases hview
  · rename_i found hfound
    obtain ⟨row, hrow, heq⟩ := Except.map_eq_ok.mp hview
    rw [← Option.some.inj heq, rowToOrderRecord_eq_ok hrow]
    have hheld := ht.orders found (List.mem_of_find?_eq_some hfound)
    rwa [LedgerDb.shows_some (List.find?_some hfound), hsub] at hheld

/-- An order that is looked up by an identifier of the owner. -/
theorem fetchOrderByIdTx_only (ht : db.Tenanted h) {id : Uuid} (hid : h.order id = owner) :
    fetchOrderByIdTx (db.only h owner) id = fetchOrderByIdTx db id := by
  have hfind : (db.only h owner).payment.orders.find? (fun o => decide (o.id = id))
      = db.payment.orders.find? (fun o => decide (o.id = id)) :=
    find?_filter_of_imp (fun o ho hp =>
      decide_eq_true (ht.owner_of_id ho (of_decide_eq_true hp ▸ hid)))
  unfold fetchOrderByIdTx
  rw [hfind]

/-- The key of an order under one of the owner's external ids is the owner's. -/
theorem LedgerDb.Tenanted.order_of_key (ht : db.Tenanted h) {externalId sub : String}
    {key : OrderKeyRecord} (hkey : db.orderKeys.find? (fun k => decide (k.externalId = externalId)
      && decide (k.ownerSub = sub)) = some key) (hsub : trimText sub = owner) :
    h.order key.orderId = owner := by
  have hp := List.find?_some hkey
  simp only [Bool.and_eq_true, decide_eq_true_eq] at hp
  rw [(ht.keys key (List.mem_of_find?_eq_some hkey)).1, hp.2, hsub]

/-- **The order under an external id** is the same in the owner's part. -/
theorem fetchOrderByExternalIdTx_only (ht : db.Tenanted h) {externalId sub : String}
    (hsub : trimText sub = owner) :
    fetchOrderByExternalIdTx (db.only h owner) externalId sub
      = fetchOrderByExternalIdTx db externalId sub := by
  have hfind : (db.only h owner).orderKeys.find? (fun k => decide (k.externalId = externalId)
        && decide (k.ownerSub = sub))
      = db.orderKeys.find? (fun k => decide (k.externalId = externalId)
        && decide (k.ownerSub = sub)) := by
    refine find?_filter_of_imp (fun k _ hp => decide_eq_true ?_)
    simp only [Bool.and_eq_true, decide_eq_true_eq] at hp
    rw [hp.2, hsub]
  unfold fetchOrderByExternalIdTx
  rw [hfind]
  cases hkey : db.orderKeys.find? (fun k => decide (k.externalId = externalId)
      && decide (k.ownerSub = sub)) with
  | none => rfl
  | some key =>
    have hid := ht.order_of_key hkey hsub
    dsimp only
    rw [fetchOrderByIdTx_only ht hid]

/-- The order under an external id of the owner has an identifier of the owner. -/
theorem order_of_fetchOrderByExternalIdTx (ht : db.Tenanted h) {externalId sub : String}
    (hsub : trimText sub = owner) {key : OrderKeyRecord} {o : OrderRecord}
    (hfetch : fetchOrderByExternalIdTx db externalId sub = .ok (some (key, o))) :
    h.order o.id = owner := by
  unfold fetchOrderByExternalIdTx at hfetch
  split at hfetch
  · cases hfetch
  · rename_i key' hkey
    obtain ⟨row, hrow, hmap⟩ := Except.bind_eq_ok.mp hfetch
    obtain ⟨o', ho', heq⟩ := Option.map_eq_some_iff.mp (Except.pure_eq_ok.mp hmap)
    obtain ⟨-, rfl⟩ := Prod.mk.inj heq
    rw [ho'] at hrow
    rw [(fetchOrderByIdTx_eq_some hrow).2]
    exact ht.order_of_key hkey hsub

/-! ### Diagnostics -/

/-- The payments of an order of the owner. -/
theorem paymentsOf_only {id : Uuid} (hid : h.order id = owner) :
    paymentsOf (db.only h owner) id = paymentsOf db id :=
  filter_filter_of_imp (fun _ _ hp => decide_eq_true (of_decide_eq_true hp ▸ hid))

theorem problemTotals_only {id : Uuid} (hid : h.order id = owner) :
    problemTotals (db.only h owner) id = problemTotals db id := by
  unfold problemTotals
  rw [paymentsOf_only hid]

theorem latestProblemPayment_only {id : Uuid} (hid : h.order id = owner) :
    latestProblemPayment (db.only h owner) id = latestProblemPayment db id := by
  unfold latestProblemPayment
  rw [paymentsOf_only hid]

theorem problemCollection_only (ht : db.Tenanted h) {id : Uuid} (hid : h.order id = owner)
    (problemFundsAddress : EvmAddress) :
    problemCollection (db.only h owner) id problemFundsAddress
      = problemCollection db id problemFundsAddress := by
  unfold problemCollection
  congr 2
  refine filter_filter_of_imp (fun c hc hp => decide_eq_true ?_)
  obtain ⟨horder, -⟩ := (Bool.and_eq_true _ _).mp hp
  rw [← (ht.collections c hc).2.1, of_decide_eq_true horder, hid]

theorem manualAcceptance_only {id : Uuid} (hid : h.order id = owner) :
    manualAcceptance (db.only h owner) id = manualAcceptance db id := by
  unfold manualAcceptance
  congr 1
  exact find?_filter_of_imp (fun ov _ hp => decide_eq_true (of_decide_eq_true hp ▸ hid))

/-- Whether the caller has an order. -/
theorem any_orders_only {id : Uuid} {sub : String} (hsub : trimText sub = owner) :
    (db.only h owner).payment.orders.any (fun o => decide (o.id = id) && decide (o.ownerSub = sub))
      = db.payment.orders.any (fun o => decide (o.id = id) && decide (o.ownerSub = sub)) := by
  refine any_filter_of_imp (fun o _ hp => decide_eq_true ?_)
  simp only [Bool.and_eq_true, decide_eq_true_eq] at hp
  rw [hp.2, hsub]

/-- An order the caller has has an identifier of the owner. -/
theorem order_of_any (ht : db.Tenanted h) {id : Uuid} {sub : String} (hsub : trimText sub = owner)
    (hany : db.payment.orders.any (fun o => decide (o.id = id) && decide (o.ownerSub = sub)) = true) :
    h.order id = owner := by
  obtain ⟨o, ho, hp⟩ := List.any_eq_true.mp hany
  simp only [Bool.and_eq_true, decide_eq_true_eq] at hp
  rw [← hp.1, (ht.orders o ho).id, hp.2, hsub]

/-- A collection the caller asks for. -/
theorem fetchCollectionForOwner_only {id : Uuid} {sub : String} (hsub : trimText sub = owner) :
    Api.fetchCollectionForOwner (db.only h owner) id sub
      = Api.fetchCollectionForOwner db id sub := by
  refine find?_filter_of_imp (fun c _ hp => decide_eq_true ?_)
  simp only [Bool.and_eq_true, decide_eq_true_eq] at hp
  rw [hp.2, hsub]

end Reads
