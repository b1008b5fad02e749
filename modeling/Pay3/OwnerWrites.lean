import Pay3.OwnerParts

/-!
# What the transactions do to the parts of the owners

The API writes in three transactions: an order is created, a problem payment
is accepted, a collection is created. Each is confined to its owner: it does to
the owner's part what it does to the whole database, with the same answer or
the same error, and to the part of another owner it does nothing.

That it *fails* in the same way is what the identifiers are needed for. The
unique indexes are over the rows of all owners, and an entry another owner holds
would be refused on the whole database and taken on the part.
-/

variable {h : Holders} {owner other : String}

/-! ## Accepting a problem payment -/

section Acceptance

variable {db : PaymentDb} {now : Timestamp} {ids : List Uuid}

/-- A total over the payments of an order of the owner. -/
theorem totalWhere_only (q : PaymentRecord → Bool) {id : Uuid} (hid : h.order id = owner) :
    totalWhere q (db.only h owner).payments id = totalWhere q db.payments id := by
  have hrows : (db.only h owner).payments.filter (fun p => decide (p.orderId = id) && q p)
      = db.payments.filter (fun p => decide (p.orderId = id) && q p) := by
    refine filter_filter_of_imp (fun p _ hp => decide_eq_true ?_)
    obtain ⟨horder, -⟩ := (Bool.and_eq_true _ _).mp hp
    rw [of_decide_eq_true horder, hid]
  unfold totalWhere
  rw [hrows]

/-- What was accepted for an order of the owner. -/
theorem acceptedProblemPayment_only {id : Uuid} (hid : h.order id = owner) :
    acceptedProblemPayment (db.only h owner).overrides id
      = acceptedProblemPayment db.overrides id := by
  have hfind : (db.only h owner).overrides.find? (fun ov => decide (ov.orderId = id))
      = db.overrides.find? (fun ov => decide (ov.orderId = id)) :=
    find?_filter_of_imp (fun ov _ hp => decide_eq_true (of_decide_eq_true hp ▸ hid))
  unfold acceptedProblemPayment
  rw [hfind]

/-- An order of the owner becomes the same in the owner's part. -/
theorem recomputedOrder_only {o : OrderRecord} (hid : h.order o.id = owner) :
    recomputedOrder (db.only h owner).payments (db.only h owner).overrides now o
      = recomputedOrder db.payments db.overrides now o := by
  have hontime : confirmedOnTimeTotal (db.only h owner).payments o.id
      = confirmedOnTimeTotal db.payments o.id := totalWhere_only _ hid
  have hnonorphaned : nonOrphanedOnTimeTotal (db.only h owner).payments o.id
      = nonOrphanedOnTimeTotal db.payments o.id := totalWhere_only _ hid
  unfold recomputedOrder
  rw [hontime, hnonorphaned, acceptedProblemPayment_only hid]

/-- **A recompute of orders of the owner**, seen by the owner. -/
theorem recomputed_only (hids : ∀ id ∈ ids, h.order id = owner) :
    (db.recomputed now ids).only h owner = (db.only h owner).recomputed now ids := by
  have hfilter : (updateWhere (fun o => decide (o.id ∈ ids))
        (recomputedOrder db.payments db.overrides now) db.orders).filter
        (fun o => decide (trimText o.ownerSub = owner))
      = updateWhere (fun o => decide (o.id ∈ ids))
        (recomputedOrder db.payments db.overrides now) (db.only h owner).orders :=
    filter_updateWhere_of_eq (fun _ => rfl)
  have hpart : updateWhere (fun o => decide (o.id ∈ ids))
        (recomputedOrder db.payments db.overrides now) (db.only h owner).orders
      = updateWhere (fun o => decide (o.id ∈ ids))
        (recomputedOrder (db.only h owner).payments (db.only h owner).overrides now)
        (db.only h owner).orders :=
    updateWhere_congr (fun o _ hp =>
      (recomputedOrder_only (hids o.id (of_decide_eq_true hp))).symm)
  exact congrArg (fun orders => { db.only h owner with orders := orders }) (hfilter.trans hpart)

/-- A recompute of orders of the owner, seen by another. -/
theorem recomputed_only_of_ne (horders : ∀ o ∈ db.orders, o.HeldBy h (trimText o.ownerSub))
    (hids : ∀ id ∈ ids, h.order id = owner) (hne : other ≠ owner) :
    (db.recomputed now ids).only h other = db.only h other := by
  have hsame : ((db.recomputed now ids).only h other).orders = (db.only h other).orders := by
    refine filter_updateWhere_of_not (fun _ => rfl) (fun o ho hp => decide_eq_false (fun hown => ?_))
    rw [← hids o.id (of_decide_eq_true hp), (horders o ho).id] at hne
    exact hne hown.symm
  show PaymentDb.mk _ _ _ _ _ = PaymentDb.mk _ _ _ _ _
  congr 1

/-- **The recompute of orders of the owner** does to the owner's part what it does
to the whole. -/
theorem recomputeOrdersInTx_only (horders : ∀ o ∈ db.orders, o.HeldBy h (trimText o.ownerSub))
    (hids : ∀ id ∈ ids, h.order id = owner) :
    recomputeOrdersInTx (db.only h owner) now ids
      = PaymentDb.only h owner <$> recomputeOrdersInTx db now ids := by
  have hrows : (db.only h owner).orders.filter (fun o => decide (o.id ∈ ids))
      = db.orders.filter (fun o => decide (o.id ∈ ids)) := by
    refine filter_filter_of_imp (fun o ho hp => decide_eq_true ?_)
    rw [← (horders o ho).id, hids o.id (of_decide_eq_true hp)]
  have hfits : (db.orders.filter (fun o => decide (o.id ∈ ids))).all (fun o => decide
        ((recomputedOrder (db.only h owner).payments (db.only h owner).overrides now
          o).paidAmountRaw < numeric78Bound))
      = (db.orders.filter (fun o => decide (o.id ∈ ids))).all (fun o => decide
        ((recomputedOrder db.payments db.overrides now o).paidAmountRaw < numeric78Bound)) := by
    rw [Bool.eq_iff_iff, List.all_eq_true, List.all_eq_true]
    refine forall₂_congr (fun o ho => ?_)
    obtain ⟨-, hid⟩ := List.mem_filter.mp ho
    rw [recomputedOrder_only (hids o.id (of_decide_eq_true hid))]
  unfold recomputeOrdersInTx
  dsimp only
  rw [hrows, hfits, ← recomputed_only hids]
  by_cases hempty : ids.isEmpty = true
  · rw [if_pos hempty, if_pos hempty]
    rfl
  · rw [if_neg hempty, if_neg hempty, map_bind]
    refine bind_congr (fun _ => ?_)
    rw [map_bind]
    refine bind_congr (fun _ => ?_)
    rw [map_pure]

/-- An order of the caller is looked up in the owner's part. -/
theorem find?_orderOf_only {id : Uuid} {sub : String} (hsub : trimText sub = owner) :
    (db.only h owner).orders.find? (fun o => decide (o.id = id) && decide (o.ownerSub = sub))
      = db.orders.find? (fun o => decide (o.id = id) && decide (o.ownerSub = sub)) := by
  refine find?_filter_of_imp (fun o _ hp => decide_eq_true ?_)
  obtain ⟨-, howner⟩ := (Bool.and_eq_true _ _).mp hp
  rw [of_decide_eq_true howner, hsub]

/-- The identifier of an order of the caller. -/
theorem order_of_find?_orderOf (horders : ∀ o ∈ db.orders, o.HeldBy h (trimText o.ownerSub))
    {id : Uuid} {sub : String} (hsub : trimText sub = owner) {o : OrderRecord}
    (ho : db.orders.find? (fun o => decide (o.id = id) && decide (o.ownerSub = sub)) = some o) :
    h.order id = owner := by
  have hp := List.find?_some ho
  simp only [Bool.and_eq_true, decide_eq_true_eq] at hp
  rw [← hp.1, (horders o (List.mem_of_find?_eq_some ho)).id, hp.2, hsub]

/-- The override of an order of the owner is written in the owner's part, and the
order recomputed with it. -/
theorem recomputeWithOverride_only
    (horders : ∀ o ∈ db.orders, o.HeldBy h (trimText o.ownerSub)) (ov : OrderPaymentOverride)
    (hid : h.order ov.orderId = owner) (hids : ∀ id ∈ ids, h.order id = owner) :
    recomputeOrdersInTx { db.only h owner with
        overrides := upsertBy OrderPaymentOverride.orderId ov (db.only h owner).overrides } now ids
      = PaymentDb.only h owner <$> recomputeOrdersInTx { db with
        overrides := upsertBy OrderPaymentOverride.orderId ov db.overrides } now ids := by
  have hupsert : (upsertBy OrderPaymentOverride.orderId ov db.overrides).filter
        (fun ov => decide (h.order ov.orderId = owner))
      = upsertBy OrderPaymentOverride.orderId ov (db.only h owner).overrides :=
    filter_upsertBy (fun r hr => decide_eq_true (by rw [hr, hid])) (decide_eq_true hid)
  have horders' : ∀ o ∈ PaymentDb.orders { db with
      overrides := upsertBy OrderPaymentOverride.orderId ov db.overrides },
      o.HeldBy h (trimText o.ownerSub) := horders
  have hpart : PaymentDb.only h owner { db with
        overrides := upsertBy OrderPaymentOverride.orderId ov db.overrides }
      = { db.only h owner with
        overrides := upsertBy OrderPaymentOverride.orderId ov (db.only h owner).overrides } :=
    congrArg (fun overrides => { db.only h owner with overrides := overrides }) hupsert
  exact (congrArg (fun part => recomputeOrdersInTx part now ids) hpart.symm).trans
    (recomputeOrdersInTx_only horders' hids)

/-- **An acceptance** does to the owner's part what it does to the whole. -/
theorem acceptProblemPaymentForOwner_only
    (horders : ∀ o ∈ db.orders, o.HeldBy h (trimText o.ownerSub)) {id : Uuid} {sub : String}
    (hsub : trimText sub = owner) (acceptedBy : String) (reason : Option String) :
    acceptProblemPaymentForOwner (db.only h owner) now id sub acceptedBy reason
      = (fun x => (x.1, x.2.only h owner))
        <$> acceptProblemPaymentForOwner db now id sub acceptedBy reason := by
  unfold acceptProblemPaymentForOwner
  rw [map_bind, find?_orderOf_only hsub]
  refine bind_congr (fun _ => ?_)
  dsimp only
  cases ho : db.orders.find? (fun o => decide (o.id = id) && decide (o.ownerSub = sub)) with
  | none => rw [map_pure]
  | some o =>
    have hid := order_of_find?_orderOf horders hsub ho
    have hontime : confirmedOnTimeTotal (db.only h owner).payments id
        = confirmedOnTimeTotal db.payments id := totalWhere_only _ hid
    have hproblem : confirmedProblemTotal (db.only h owner).payments id
        = confirmedProblemTotal db.payments id := totalWhere_only _ hid
    have hids : ∀ i ∈ sortedSet [id], h.order i = owner := by
      intro i hi
      rw [List.mem_singleton.mp (mem_sortedSet.mp hi), hid]
    dsimp only
    rw [hontime, hproblem, map_bind]
    refine bind_congr (fun onTime => ?_)
    rw [map_bind]
    refine bind_congr (fun problem => ?_)
    rw [map_bind]
    refine bind_congr (fun _ => ?_)
    rw [map_bind]
    refine bind_congr (fun _ => ?_)
    rw [map_bind]
    refine bind_congr (fun _ => ?_)
    rw [recomputeWithOverride_only horders ⟨id, problem, _, _⟩ hid hids, bind_map_left, map_bind]
    refine bind_congr (fun db₂ => ?_)
    rw [find?_orderOf_only hsub, map_bind]
    refine bind_congr (fun _ => ?_)
    rw [map_pure]

/-- A recompute leaves the identifiers of the orders. -/
theorem recomputed_held (horders : ∀ o ∈ db.orders, o.HeldBy h (trimText o.ownerSub)) :
    ∀ o ∈ (db.recomputed now ids).orders, o.HeldBy h (trimText o.ownerSub) := by
  intro o ho
  obtain ⟨q, hq, -, rfl⟩ | ⟨ho, -⟩ := mem_updateWhere.mp ho
  · obtain ⟨-, hid, haccount, haddress⟩ := horders q hq
    exact ⟨rfl, hid, haccount, haddress⟩
  · exact horders o ho

/-- What an acceptance leaves: orders with the identifiers they had, and the parts
of the others. -/
theorem acceptProblemPaymentForOwner_leaves
    (horders : ∀ o ∈ db.orders, o.HeldBy h (trimText o.ownerSub)) {id : Uuid}
    {sub acceptedBy : String} {reason : Option String} (hsub : trimText sub = owner)
    {answer : Option OrderRecord} {db' : PaymentDb}
    (haccept : acceptProblemPaymentForOwner db now id sub acceptedBy reason = .ok (answer, db')) :
    (∀ o ∈ db'.orders, o.HeldBy h (trimText o.ownerSub))
      ∧ ∀ other, other ≠ owner → db'.only h other = db.only h other := by
  obtain ⟨-, rfl⟩ | ⟨ov, hov, ⟨o, ho, hoid, hosub⟩, -, -, -, rfl⟩ :=
    acceptProblemPaymentForOwner_eq_ok haccept
  · exact ⟨horders, fun _ _ => rfl⟩
  · have hid : h.order id = owner := by
      rw [← hoid, (horders o ho).id, hosub, hsub]
    have hids : ∀ i ∈ sortedSet [id], h.order i = owner := by
      intro i hi
      rw [List.mem_singleton.mp (mem_sortedSet.mp hi), hid]
    have horders' : ∀ o ∈ PaymentDb.orders { db with
        overrides := upsertBy OrderPaymentOverride.orderId ov db.overrides },
        o.HeldBy h (trimText o.ownerSub) := horders
    refine ⟨recomputed_held horders', fun other hne => ?_⟩
    rw [recomputed_only_of_ne horders' hids hne]
    show PaymentDb.mk _ _ _ _ _ = PaymentDb.mk _ _ _ _ _
    congr 1
    have hother : ∀ i, i = ov.orderId → decide (h.order i = other) = false := by
      rintro i rfl
      rw [hov, hid]
      exact decide_eq_false hne.symm
    exact filter_upsertBy_of_not (fun r hr => hother r.orderId hr) (hother ov.orderId rfl)

end Acceptance

section AcceptanceTx

variable {db : LedgerDb} {now : Timestamp} {id : Uuid} {sub acceptedBy : String}
  {reason : Option String}

/-- The database with other payment tables, whose orders have the identifiers of
their owners. -/
theorem LedgerDb.Tenanted.setPayment (ht : db.Tenanted h) {payment : PaymentDb}
    (horders : ∀ o ∈ payment.orders, o.HeldBy h (trimText o.ownerSub)) :
    (db.setPayment payment).Tenanted h :=
  ⟨horders, ht.keys, ht.accounts, ht.collections, ht.active⟩

/-- **The transaction of an acceptance**, on the owner's part. -/
theorem acceptProblemPaymentTx_only (ht : db.Tenanted h) (hsub : trimText sub = owner) :
    Api.acceptProblemPaymentTx now id sub acceptedBy reason (db.only h owner)
      = (fun x => (x.1, x.2.only h owner))
        <$> Api.acceptProblemPaymentTx now id sub acceptedBy reason db := by
  have hpart : acceptProblemPaymentForOwner (db.only h owner).payment now id sub acceptedBy reason
      = _ := acceptProblemPaymentForOwner_only ht.orders hsub acceptedBy reason
  unfold Api.acceptProblemPaymentTx
  rw [hpart, bind_map_left, map_bind]
  cases haccept : acceptProblemPaymentForOwner db.payment now id sub acceptedBy reason with
  | error e => rfl
  | ok x =>
    obtain ⟨answer, payment⟩ := x
    obtain ⟨horders, -⟩ := acceptProblemPaymentForOwner_leaves ht.orders hsub haccept
    cases answer with
    | none => rfl
    | some o =>
      have hview : fetchOrderView ((db.setPayment payment).only h owner) id (some sub) = _ :=
        fetchOrderView_only (ht.setPayment horders) (Or.inl ⟨sub, rfl, hsub⟩)
      show (fetchOrderView ((db.only h owner).setPayment (payment.only h owner)) id (some sub)
          >>= fun view => pure (view, (db.only h owner).setPayment (payment.only h owner)))
        = _ <$> (fetchOrderView (db.setPayment payment) id (some sub)
          >>= fun view => pure (view, db.setPayment payment))
      rw [← LedgerDb.setPayment_only, hview, map_bind]
      rfl

/-- What an acceptance leaves of the database. -/
theorem acceptProblemPaymentTx_leaves (ht : db.Tenanted h) (hsub : trimText sub = owner)
    {answer : Option OrderView} {db' : LedgerDb}
    (htx : Api.acceptProblemPaymentTx now id sub acceptedBy reason db = .ok (answer, db')) :
    db'.Tenanted h ∧ ∀ other, other ≠ owner → db'.only h other = db.only h other := by
  unfold Api.acceptProblemPaymentTx at htx
  obtain ⟨⟨row, payment⟩, haccept, htx⟩ := Except.bind_eq_ok.mp htx
  obtain ⟨horders, hothers⟩ := acceptProblemPaymentForOwner_leaves ht.orders hsub haccept
  cases row with
  | none =>
    obtain ⟨-, rfl⟩ := Prod.mk.inj (Except.pure_eq_ok.mp htx)
    exact ⟨ht, fun _ _ => rfl⟩
  | some o =>
    obtain ⟨view, -, htx⟩ := Except.bind_eq_ok.mp htx
    obtain ⟨-, rfl⟩ := Prod.mk.inj (Except.pure_eq_ok.mp htx)
    refine ⟨ht.setPayment horders, fun other hne => ?_⟩
    rw [LedgerDb.setPayment_only, hothers other hne]
    exact LedgerDb.setPayment_payment_self (db.only h other)

/-- The view an acceptance answers with is the owner's. -/
theorem heldBy_of_acceptProblemPaymentTx (ht : db.Tenanted h) (hsub : trimText sub = owner)
    {view : OrderView} {db' : LedgerDb}
    (htx : Api.acceptProblemPaymentTx now id sub acceptedBy reason db = .ok (some view, db')) :
    view.order.HeldBy h owner := by
  unfold Api.acceptProblemPaymentTx at htx
  obtain ⟨⟨row, payment⟩, haccept, htx⟩ := Except.bind_eq_ok.mp htx
  obtain ⟨horders, -⟩ := acceptProblemPaymentForOwner_leaves ht.orders hsub haccept
  cases row with
  | none =>
    obtain ⟨hnone, -⟩ := Prod.mk.inj (Except.pure_eq_ok.mp htx)
    cases hnone
  | some o =>
    obtain ⟨found, hview, htx⟩ := Except.bind_eq_ok.mp htx
    obtain ⟨rfl, -⟩ := Prod.mk.inj (Except.pure_eq_ok.mp htx)
    exact heldBy_of_fetchOrderView (ht.setPayment horders) hview (Or.inl ⟨sub, rfl, hsub⟩)

end AcceptanceTx

/-! ## Creating an order -/

/-- A command whose identifiers are its owner's. -/
structure CreateOrderCommand.HeldBy (h : Holders) (command : CreateOrderCommand) (owner : String) :
    Prop where
  ownerSub : trimText command.ownerSub = owner
  order : h.order command.orderId = owner
  window : h.window command.paymentWindow.id = owner
  account : h.account command.childAccount.id = owner
  address : h.address command.childAccount.address = owner
  segment : h.segment command.childAccount.signerKeyRef command.childAccount.derivationVersion
    command.childAccount.derivationSegment = owner

section Creation

variable {db : LedgerDb} {command : CreateOrderCommand}

/-- The rows of a new order are the owner's. -/
theorem withOrder_only (hc : command.HeldBy h owner) :
    (db.withOrder command).only h owner = (db.only h owner).withOrder command := by
  have horders : (db.payment.orders ++ [newOrder command]).filter
        (fun o => decide (trimText o.ownerSub = owner))
      = (db.only h owner).payment.orders ++ [newOrder command] :=
    filter_append_of_pos (decide_eq_true hc.ownerSub)
  have hwindows : (db.payment.windows ++ [newPaymentWindow command]).filter
        (fun w => decide (h.order w.orderId = owner))
      = (db.only h owner).payment.windows ++ [newPaymentWindow command] :=
    filter_append_of_pos (decide_eq_true hc.order)
  have hkeys : (db.orderKeys ++ [newOrderKey command]).filter
        (fun k => decide (trimText k.ownerSub = owner))
      = (db.only h owner).orderKeys ++ [newOrderKey command] :=
    filter_append_of_pos (decide_eq_true hc.ownerSub)
  have haccounts : (db.collector.childAccounts ++ [command.childAccount]).filter
        (fun a => decide (h.account a.id = owner))
      = (db.only h owner).collector.childAccounts ++ [command.childAccount] :=
    filter_append_of_pos (decide_eq_true hc.account)
  have hcollectable : ((db.payment.orders ++ [newOrder command]).map OrderRecord.collectable).filter
        (fun o => decide (trimText o.ownerSub = owner))
      = ((db.only h owner).payment.orders ++ [newOrder command]).map OrderRecord.collectable := by
    rw [filter_collectable, horders]
  exact LedgerDb.ext_tables
    (congrArg₂ (fun orders windows =>
      { (db.only h owner).payment with orders := orders, windows := windows }) horders hwindows)
    hkeys
    (congrArg₂ (fun accounts orders =>
      { (db.only h owner).collector with childAccounts := accounts, orders := orders })
      haccounts hcollectable)

/-- The rows of a new order are not another's. -/
theorem withOrder_only_of_ne (hc : command.HeldBy h owner) (hne : other ≠ owner) :
    (db.withOrder command).only h other = db.only h other := by
  have hother : ∀ {holder : String}, holder = owner → decide (holder = other) = false := by
    rintro _ rfl
    exact decide_eq_false hne.symm
  have horders : (db.payment.orders ++ [newOrder command]).filter
        (fun o => decide (trimText o.ownerSub = other)) = (db.only h other).payment.orders :=
    filter_append_of_neg (hother hc.ownerSub)
  have hwindows : (db.payment.windows ++ [newPaymentWindow command]).filter
        (fun w => decide (h.order w.orderId = other)) = (db.only h other).payment.windows :=
    filter_append_of_neg (hother hc.order)
  have hkeys : (db.orderKeys ++ [newOrderKey command]).filter
        (fun k => decide (trimText k.ownerSub = other)) = (db.only h other).orderKeys :=
    filter_append_of_neg (hother hc.ownerSub)
  have haccounts : (db.collector.childAccounts ++ [command.childAccount]).filter
        (fun a => decide (h.account a.id = other)) = (db.only h other).collector.childAccounts :=
    filter_append_of_neg (hother hc.account)
  have hcollectable : ((db.payment.orders ++ [newOrder command]).map OrderRecord.collectable).filter
        (fun o => decide (trimText o.ownerSub = other)) = (db.only h other).collector.orders := by
    rw [List.map_append, ← db.orders_eq]
    exact filter_append_of_neg (hother hc.ownerSub)
  exact LedgerDb.ext_tables
    (congrArg₂ (fun orders windows =>
      { (db.only h other).payment with orders := orders, windows := windows }) horders hwindows)
    hkeys
    (congrArg₂ (fun accounts orders =>
      { (db.only h other).collector with childAccounts := accounts, orders := orders })
      haccounts hcollectable)

/-- The rows of a new order have identifiers of its owner. -/
theorem LedgerDb.Tenanted.withOrder (ht : db.Tenanted h) (hc : command.HeldBy h owner) :
    (db.withOrder command).Tenanted h := by
  obtain ⟨hsub, horder, hwindow, haccount, haddress, hsegment⟩ := hc
  refine ⟨fun o ho => ?_, fun k hk => ?_, fun a ha => ?_, ht.collections, ht.active⟩
  · obtain ho | ho := List.mem_append.mp ho
    · exact ht.orders o ho
    · obtain rfl := List.mem_singleton.mp ho
      exact ⟨rfl, horder.trans hsub.symm, haccount.trans hsub.symm, haddress.trans hsub.symm⟩
  · obtain hk | hk := List.mem_append.mp hk
    · exact ht.keys k hk
    · obtain rfl := List.mem_singleton.mp hk
      exact ⟨horder.trans hsub.symm, hwindow.trans hsub.symm⟩
  · obtain ha | ha := List.mem_append.mp ha
    · exact ht.accounts a ha
    · obtain rfl := List.mem_singleton.mp ha
      exact ⟨haddress.trans haccount.symm, hsegment.trans haccount.symm⟩

/-- The checks of a child account find the same in the owner's part. -/
theorem checkChildAccountRow_only (ht : db.Tenanted h) (hc : command.HeldBy h owner) :
    checkChildAccountRow (db.only h owner).collector.childAccounts command.childAccount
      = checkChildAccountRow db.collector.childAccounts command.childAccount := by
  have hid : (db.only h owner).collector.childAccounts.all
        (fun a => decide (a.id ≠ command.childAccount.id))
      = db.collector.childAccounts.all (fun a => decide (a.id ≠ command.childAccount.id)) := by
    refine all_filter_of_imp (fun a _ hq => decide_eq_true (fun heq => ?_))
    exact of_decide_eq_false hq (heq ▸ hc.account)
  have haddress : (db.only h owner).collector.childAccounts.all
        (fun a => decide (a.address ≠ command.childAccount.address))
      = db.collector.childAccounts.all
        (fun a => decide (a.address ≠ command.childAccount.address)) := by
    refine all_filter_of_imp (fun a ha hq => decide_eq_true (fun heq => of_decide_eq_false hq ?_))
    rw [← (ht.accounts a ha).1, heq, hc.address]
  have hsegment : (db.only h owner).collector.childAccounts.all (fun a =>
        !(decide (a.signerKeyRef = command.childAccount.signerKeyRef)
          && decide (a.derivationVersion = command.childAccount.derivationVersion)
          && decide (a.derivationSegment = command.childAccount.derivationSegment)))
      = db.collector.childAccounts.all (fun a =>
        !(decide (a.signerKeyRef = command.childAccount.signerKeyRef)
          && decide (a.derivationVersion = command.childAccount.derivationVersion)
          && decide (a.derivationSegment = command.childAccount.derivationSegment))) := by
    refine all_filter_of_imp (fun a ha hq => Bool.not_eq_true' _ ▸ Bool.eq_false_iff.mpr ?_)
    intro hsame
    simp only [Bool.and_eq_true, decide_eq_true_eq] at hsame
    refine of_decide_eq_false hq ?_
    rw [← (ht.accounts a ha).2, hsame.1.1, hsame.1.2, hsame.2, hc.segment]
  unfold checkChildAccountRow
  rw [hid, haddress, hsegment]

/-- The checks of an order find the same in the owner's part. -/
theorem checkOrderRow_only (ht : db.Tenanted h) (hc : command.HeldBy h owner) :
    checkOrderRow (db.only h owner) command = checkOrderRow db command := by
  have hid : (db.only h owner).payment.orders.all (fun o => decide (o.id ≠ command.orderId))
      = db.payment.orders.all (fun o => decide (o.id ≠ command.orderId)) := by
    refine all_filter_of_imp (fun o ho hq => decide_eq_true (fun heq => of_decide_eq_false hq ?_))
    rw [← (ht.orders o ho).id, heq, hc.order]
  have haddress : (db.only h owner).payment.orders.all
        (fun o => decide (o.receiveAddress ≠ command.childAccount.address))
      = db.payment.orders.all
        (fun o => decide (o.receiveAddress ≠ command.childAccount.address)) := by
    refine all_filter_of_imp (fun o ho hq => decide_eq_true (fun heq => of_decide_eq_false hq ?_))
    rw [← (ht.orders o ho).address, heq, hc.address]
  have hkey : (db.only h owner).orderKeys.all (fun k =>
        !(decide (k.ownerSub = command.ownerSub) && decide (k.externalId = command.externalId)))
      = db.orderKeys.all (fun k =>
        !(decide (k.ownerSub = command.ownerSub)
          && decide (k.externalId = command.externalId))) := by
    refine all_filter_of_imp (fun k _ hq => Bool.not_eq_true' _ ▸ Bool.eq_false_iff.mpr ?_)
    intro hsame
    simp only [Bool.and_eq_true, decide_eq_true_eq] at hsame
    exact of_decide_eq_false hq (hsame.1 ▸ hc.ownerSub)
  unfold checkOrderRow
  rw [hid, haddress, hkey]

/-- The checks of a payment window find the same in the owner's part. -/
theorem checkPaymentWindowRow_only (ht : db.Tenanted h) (hc : command.HeldBy h owner) :
    checkPaymentWindowRow (db.only h owner) command = checkPaymentWindowRow db command := by
  have hid : (db.only h owner).orderKeys.all
        (fun k => decide (k.windowId ≠ command.paymentWindow.id))
      = db.orderKeys.all (fun k => decide (k.windowId ≠ command.paymentWindow.id)) := by
    refine all_filter_of_imp (fun k hk hq => decide_eq_true (fun heq => of_decide_eq_false hq ?_))
    rw [← (ht.keys k hk).2, heq, hc.window]
  have horder : (db.only h owner).payment.windows.all
        (fun w => decide (w.orderId ≠ command.orderId))
      = db.payment.windows.all (fun w => decide (w.orderId ≠ command.orderId)) := by
    refine all_filter_of_imp (fun w _ hq => decide_eq_true (fun heq => ?_))
    exact of_decide_eq_false hq (heq ▸ hc.order)
  unfold checkPaymentWindowRow
  rw [hid, horder]

/-- **The inserts of a creation** do to the owner's part what they do to the
whole. -/
theorem insertOrderTx_only (ht : db.Tenanted h) (hc : command.HeldBy h owner) :
    insertOrderTx (db.only h owner) command
      = (fun x => (x.1, x.2.only h owner)) <$> insertOrderTx db command := by
  have hread : fetchOrderByIdTx ((db.only h owner).withOrder command) command.orderId
      = fetchOrderByIdTx (db.withOrder command) command.orderId := by
    rw [← withOrder_only hc]
    exact fetchOrderByIdTx_only (ht.withOrder hc) hc.order
  unfold insertOrderTx
  dsimp only
  rw [checkChildAccountRow_only ht hc, checkOrderRow_only ht hc, checkPaymentWindowRow_only ht hc,
    hread, ← withOrder_only hc]
  simp only [map_bind, map_pure]

/-- **A creation** does to the owner's part what it does to the whole. -/
theorem createOrderIdempotent_only (ht : db.Tenanted h) (hc : command.HeldBy h owner) :
    createOrderIdempotent (db.only h owner) command
      = (fun x => (x.1, x.2.only h owner)) <$> createOrderIdempotent db command := by
  unfold createOrderIdempotent
  rw [fetchOrderByExternalIdTx_only ht hc.ownerSub, map_bind]
  refine bind_congr (fun found => ?_)
  cases found with
  | some row => simp only [map_bind, map_pure]
  | none =>
    dsimp only
    rw [insertOrderTx_only ht hc, bind_map_left, map_bind]
    exact bind_congr (fun x => (map_pure _ _).symm)

/-- The order a creation answers with. -/
def CreateOrderOutcome.order : CreateOrderOutcome → OrderRecord
  | .created order | .existing order => order

/-- What a creation leaves of the database, and the order it answers with. -/
theorem createOrderIdempotent_leaves (ht : db.Tenanted h) (hc : command.HeldBy h owner)
    {outcome : CreateOrderOutcome} {db' : LedgerDb}
    (hcreate : createOrderIdempotent db command = .ok (outcome, db')) :
    db'.Tenanted h ∧ (∀ other, other ≠ owner → db'.only h other = db.only h other)
      ∧ h.order outcome.order.id = owner := by
  obtain ⟨key, order, hfetch, -, rfl, rfl⟩ | ⟨order, rfl, hread, -, rfl⟩ :=
    createOrderIdempotent_eq_ok hcreate
  · exact ⟨ht, fun _ _ => rfl, order_of_fetchOrderByExternalIdTx ht hc.ownerSub hfetch⟩
  · refine ⟨ht.withOrder hc, fun _ hne => withOrder_only_of_ne hc hne, ?_⟩
    show h.order order.id = owner
    rw [(fetchOrderByIdTx_eq_some hread).2, hc.order]

end Creation

/-! ## Creating a collection -/

/-- A command whose identifiers are its owner's. -/
structure CreateCollectionCommand.HeldBy (h : Holders) (command : CreateCollectionCommand)
    (owner : String) : Prop where
  ownerSub : trimText command.ownerSub = owner
  collection : h.collection command.collectionId = owner
  order : h.order command.orderId = owner
  account : h.account command.childAccountId = owner

section Collection

variable {db : LedgerDb} {command : CreateCollectionCommand} {now : Timestamp}

/-- The collection of a request is looked up in the owner's part. -/
theorem find?_keyed_only (hc : command.HeldBy h owner) :
    (db.only h owner).collector.collections.find? (fun c => decide (c.ownerSub = command.ownerSub)
        && decide (c.idempotencyKey = command.idempotencyKey))
      = db.collector.collections.find? (fun c => decide (c.ownerSub = command.ownerSub)
        && decide (c.idempotencyKey = command.idempotencyKey)) := by
  refine find?_filter_of_imp (fun c _ hp => decide_eq_true ?_)
  obtain ⟨hsub, -⟩ := (Bool.and_eq_true _ _).mp hp
  rw [of_decide_eq_true hsub, hc.ownerSub]

/-- The active collection of a child account is looked up in the owner's part. -/
theorem selectActive_only (ht : db.Tenanted h) {id : Uuid} (hid : h.account id = owner) :
    (db.only h owner).collector.selectActiveCollectionByChildAccount id
      = db.collector.selectActiveCollectionByChildAccount id := by
  unfold CollectorDb.selectActiveCollectionByChildAccount
  congr 1
  refine filter_filter_of_imp (fun c hc hp => decide_eq_true ?_)
  obtain ⟨haccount, -⟩ := (Bool.and_eq_true _ _).mp hp
  rw [← (ht.collections c hc).2.2, of_decide_eq_true haccount, hid]

/-- The order of a collection is locked in the owner's part. -/
theorem lockCollectableOrder_only (hc : command.HeldBy h owner) :
    (db.only h owner).collector.lockCollectableOrder command
      = db.collector.lockCollectableOrder command := by
  have hfind : (db.only h owner).collector.orders.find? (fun o => decide (o.id = command.orderId)
        && decide (o.ownerSub = command.ownerSub)
        && decide (o.childAccountId = command.childAccountId)
        && decide (o.chainId = command.chainId)
        && decide (o.tokenAddress = command.tokenAddress)
        && decide (o.receiveAddress = command.fromAddress))
      = db.collector.orders.find? (fun o => decide (o.id = command.orderId)
        && decide (o.ownerSub = command.ownerSub)
        && decide (o.childAccountId = command.childAccountId)
        && decide (o.chainId = command.chainId)
        && decide (o.tokenAddress = command.tokenAddress)
        && decide (o.receiveAddress = command.fromAddress)) := by
    refine find?_filter_of_imp (fun o _ hp => decide_eq_true ?_)
    simp only [Bool.and_eq_true, decide_eq_true_eq] at hp
    rw [hp.1.1.1.1.2, hc.ownerSub]
  unfold CollectorDb.lockCollectableOrder
  rw [hfind]

/-- The index on active collections finds the same in the owner's part: a
collection of another owner is of another child account. -/
theorem activePerChild_only (ht : db.Tenanted h) {row : CollectionRecord}
    (hrow : h.account row.childAccountId = owner) :
    CollectorDb.activePerChild ((db.only h owner).collector.collections ++ [row])
      = CollectorDb.activePerChild (db.collector.collections ++ [row]) := by
  have hactive := of_decide_eq_true ht.active
  have hpart := hactive.filter (fun c => decide (trimText c.ownerSub = owner))
  unfold CollectorDb.activePerChild
  rw [decide_eq_decide, List.pairwise_append, List.pairwise_append]
  refine and_congr (iff_of_true hpart hactive) (and_congr_right (fun _ => ?_))
  refine ⟨fun hrows c hcol r hr => ?_, fun hrows c hcol => hrows c (List.mem_of_mem_filter hcol)⟩
  obtain rfl := List.mem_singleton.mp hr
  rintro ⟨hc, hr', hchild⟩
  have hmine : trimText c.ownerSub = owner := by
    rw [← (ht.collections c hcol).2.2, hchild, hrow]
  exact hrows c (List.mem_filter.mpr ⟨hcol, decide_eq_true hmine⟩) r hr ⟨hc, hr', hchild⟩

/-- **The insert of a collection** does to the owner's part what it does to the
whole. -/
theorem insertCollection_only (ht : db.Tenanted h) (hc : command.HeldBy h owner) :
    (db.only h owner).collector.insertCollection now command
      = (fun x => (x.1.only h owner, x.2)) <$> db.collector.insertCollection now command := by
  let row := CollectorDb.newCollection now command
  have hid : (db.only h owner).collector.collections.all (fun c => decide (c.id ≠ row.id))
      = db.collector.collections.all (fun c => decide (c.id ≠ row.id)) := by
    refine all_filter_of_imp (fun c hcol hq => decide_eq_true (fun heq =>
      of_decide_eq_false hq ?_))
    rw [← (ht.collections c hcol).1, heq]
    exact hc.collection
  have hactive : CollectorDb.activePerChild ((db.only h owner).collector.collections ++ [row])
      = CollectorDb.activePerChild (db.collector.collections ++ [row]) :=
    activePerChild_only ht hc.account
  have haccount : (db.only h owner).collector.childAccounts.any
        (fun a => decide (a.id = row.childAccountId) && decide (a.address = row.fromAddress))
      = db.collector.childAccounts.any
        (fun a => decide (a.id = row.childAccountId) && decide (a.address = row.fromAddress)) := by
    refine any_filter_of_imp (fun a _ hp => decide_eq_true ?_)
    obtain ⟨hid, -⟩ := (Bool.and_eq_true _ _).mp hp
    rw [of_decide_eq_true hid]
    exact hc.account
  have hrows : (db.only h owner).collector.collections ++ [row]
      = (db.collector.collections ++ [row]).filter
        (fun c => decide (trimText c.ownerSub = owner)) := by
    refine (filter_append_of_pos ?_).symm
    exact decide_eq_true hc.ownerSub
  unfold CollectorDb.insertCollection
  dsimp only
  rw [hid, hactive, haccount, hrows]
  simp only [map_bind, map_pure]
  rfl

/-- **The creation of a collection** does to the owner's part what it does to the
whole. -/
theorem createCollectionIdempotent_only (ht : db.Tenanted h) (hc : command.HeldBy h owner) :
    (db.only h owner).collector.createCollectionIdempotent now command
      = (fun x => (x.1.only h owner, x.2))
        <$> db.collector.createCollectionIdempotent now command := by
  unfold CollectorDb.createCollectionIdempotent
  rw [find?_keyed_only hc]
  cases db.collector.collections.find? (fun c => decide (c.ownerSub = command.ownerSub)
      && decide (c.idempotencyKey = command.idempotencyKey)) with
  | some existing =>
    dsimp only
    rw [map_bind]
    exact bind_congr (fun _ => (map_pure _ _).symm)
  | none =>
    dsimp only
    rw [selectActive_only ht hc.account]
    cases db.collector.selectActiveCollectionByChildAccount command.childAccountId with
    | some active => rfl
    | none =>
      dsimp only
      rw [lockCollectableOrder_only hc, map_bind]
      exact bind_congr (fun _ => insertCollection_only ht hc)

/-- The part with other collector tables. -/
theorem setCollector_only (db : LedgerDb) (collector : CollectorDb) :
    (db.setCollector collector).only h owner
      = (db.only h owner).setCollector (collector.only h owner) := by
  refine LedgerDb.ext_tables rfl rfl ?_
  exact congrArg (fun orders => { collector.only h owner with orders := orders })
    (filter_collectable owner db.payment.orders)

/-- **The transaction of a collection**, on the owner's part. -/
theorem createCollectionTx_only (ht : db.Tenanted h) (hc : command.HeldBy h owner) :
    Api.createCollectionTx now command (db.only h owner)
      = (fun x => (x.1, x.2.only h owner)) <$> Api.createCollectionTx now command db := by
  unfold Api.createCollectionTx
  rw [createCollectionIdempotent_only ht hc]
  cases db.collector.createCollectionIdempotent now command with
  | error e => rfl
  | ok x => exact congrArg (fun part => Except.ok (x.2, part)) (setCollector_only db x.1).symm

/-- What the creation of a collection leaves of the database. -/
theorem createCollectionTx_leaves (ht : db.Tenanted h) (hc : command.HeldBy h owner)
    {c : CollectionRecord} {db' : LedgerDb}
    (hcreate : Api.createCollectionTx now command db = .ok (c, db')) :
    db'.Tenanted h ∧ ∀ other, other ≠ owner → db'.only h other = db.only h other := by
  obtain ⟨⟨collector, row⟩, hinner, heq⟩ := Except.map_eq_ok.mp hcreate
  obtain ⟨-, rfl⟩ := Prod.mk.inj heq
  dsimp only
  obtain rfl | ⟨-, hactive, rfl⟩ := CollectorDb.createCollectionIdempotent_cases hinner
  · rw [db.setCollector_collector]
    exact ⟨ht, fun _ _ => rfl⟩
  · refine ⟨⟨ht.orders, ht.keys, ht.accounts, fun d hd => ?_, hactive⟩, fun other hne => ?_⟩
    · obtain hd | hd := List.mem_append.mp hd
      · exact ht.collections d hd
      · obtain rfl := List.mem_singleton.mp hd
        exact ⟨hc.collection.trans hc.ownerSub.symm, hc.order.trans hc.ownerSub.symm,
          hc.account.trans hc.ownerSub.symm⟩
    · have hrows : (db.collector.collections ++ [CollectorDb.newCollection now command]).filter
            (fun c => decide (trimText c.ownerSub = other))
          = (db.only h other).collector.collections := by
        refine filter_append_of_neg (decide_eq_false (fun hother => hne ?_))
        rw [← hother, ← hc.ownerSub]
        rfl
      rw [setCollector_only]
      have hcollector : CollectorDb.only h other { db.collector with
            collections := db.collector.collections ++ [CollectorDb.newCollection now command] }
          = (db.only h other).collector := by
        show CollectorDb.mk _ _ _ _ _ _ _ = CollectorDb.mk _ _ _ _ _ _ _
        congr 1
      rw [hcollector, LedgerDb.setCollector_collector]

end Collection
