import Pay3.OrderCreation
import Mathlib.Data.List.Flatten
import Mathlib.Data.List.Nodup
import Mathlib.Data.List.Perm.Basic

/-!
# The rows of an order, as a request meets them

One lemma for each thing a request does with the database: what it knows after a
read, that an insert which passes its checks adds entries the unique indexes did
not have, and what each of its steps can fail with.
-/

/-! ## Reading orders -/

/-- The key columns are those of the order of a request. -/
def OrderKeyRecord.IsFor (k : OrderKeyRecord) (request : CreateRequest) : Prop :=
  k.ownerSub = request.ownerSub ∧ k.externalId = request.input.externalId

instance (k : OrderKeyRecord) (request : CreateRequest) : Decidable (k.IsFor request) :=
  inferInstanceAs (Decidable (_ ∧ _))

/-- **The rows of an order are stored together**: its child account, with the
address it receives at, and for its key columns the order and its window. -/
structure LedgerDb.RowsStored (db : LedgerDb) : Prop where
  account : ∀ o ∈ db.payment.orders, ∃ a ∈ db.collector.childAccounts,
    a.id = o.childAccountId ∧ a.address = o.receiveAddress
  order : ∀ k ∈ db.orderKeys, ∃ o ∈ db.payment.orders, o.id = k.orderId
  window : ∀ o ∈ db.payment.orders, ∃ w ∈ db.payment.windows, w.orderId = o.id

section Reads

variable {db : LedgerDb}

/-- The only thing that can go wrong when an order is read. -/
theorem rowToOrderRecord_eq_error {o : OrderRecord} {e : RepositoryError}
    (h : rowToOrderRecord o = .error e) : ∃ message, e = .invariantViolation message := by
  unfold rowToOrderRecord bigDecimalToRawAmount at h
  split_ifs at h
  · cases h
  · exact ⟨_, (Except.error.inj h).symm⟩

/-- An order that is found by its id. -/
theorem fetchOrderByIdTx_eq_some {id : Uuid} {o : OrderRecord}
    (h : fetchOrderByIdTx db id = .ok (some o)) : o ∈ db.payment.orders ∧ o.id = id := by
  unfold fetchOrderByIdTx at h
  split at h
  · cases h
  · rename_i row hfind
    obtain ⟨o', hrow, hsome⟩ := Except.map_eq_ok.mp h
    rw [← Option.some.inj hsome, rowToOrderRecord_eq_ok hrow]
    exact ⟨List.mem_of_find?_eq_some hfind, by simpa using List.find?_some hfind⟩

theorem fetchOrderByIdTx_ne_none {id : Uuid} {o : OrderRecord} (ho : o ∈ db.payment.orders)
    (hid : o.id = id) : fetchOrderByIdTx db id ≠ .ok none := by
  unfold fetchOrderByIdTx
  split
  · rename_i hfind
    exact absurd (decide_eq_true hid) (List.find?_eq_none.mp hfind o ho)
  · intro h
    obtain ⟨_, -, hsome⟩ := Except.map_eq_ok.mp h
    cases hsome

theorem fetchOrderByIdTx_eq_error {id : Uuid} {e : RepositoryError}
    (h : fetchOrderByIdTx db id = .error e) : ∃ message, e = .invariantViolation message := by
  unfold fetchOrderByIdTx at h
  split at h
  · cases h
  · rename_i row hfind
    cases hrow : rowToOrderRecord row with
    | error e' =>
      rw [hrow] at h
      obtain rfl := Except.error.inj h
      exact rowToOrderRecord_eq_error hrow
    | ok o =>
      rw [hrow] at h
      cases h

/-- **An order that is found under an external id.** -/
theorem fetchOrderByExternalIdTx_eq_some {externalId ownerSub : String} {k : OrderKeyRecord}
    {o : OrderRecord} (h : fetchOrderByExternalIdTx db externalId ownerSub = .ok (some (k, o))) :
    k ∈ db.orderKeys ∧ k.externalId = externalId ∧ k.ownerSub = ownerSub
      ∧ o ∈ db.payment.orders ∧ o.id = k.orderId := by
  unfold fetchOrderByExternalIdTx at h
  split at h
  · cases h
  · rename_i key hfind
    obtain ⟨row, hrow, h⟩ := Except.bind_eq_ok.mp h
    obtain ⟨o', hsome, hpair⟩ := Option.map_eq_some_iff.mp (Except.ok.inj h)
    obtain ⟨rfl, rfl⟩ := Prod.mk.inj hpair
    have hkey := List.find?_some hfind
    rw [Bool.and_eq_true, decide_eq_true_eq, decide_eq_true_eq] at hkey
    rw [hsome] at hrow
    exact ⟨List.mem_of_find?_eq_some hfind, hkey.1, hkey.2, fetchOrderByIdTx_eq_some hrow⟩

/-- No order is found when there is none. -/
theorem fetchOrderByExternalIdTx_eq_none (hrows : db.RowsStored) {externalId ownerSub : String}
    (h : fetchOrderByExternalIdTx db externalId ownerSub = .ok none) :
    ∀ k ∈ db.orderKeys, ¬ (k.ownerSub = ownerSub ∧ k.externalId = externalId) := by
  unfold fetchOrderByExternalIdTx at h
  split at h
  · rename_i hfind
    rintro k hk ⟨howner, hexternal⟩
    simpa [howner, hexternal] using List.find?_eq_none.mp hfind k hk
  · rename_i key hfind
    obtain ⟨row, hrow, h⟩ := Except.bind_eq_ok.mp h
    obtain ⟨o, ho, hid⟩ := hrows.order key (List.mem_of_find?_eq_some hfind)
    rw [Option.map_eq_none_iff.mp (Except.ok.inj h)] at hrow
    exact absurd hrow (fetchOrderByIdTx_ne_none ho hid)

theorem fetchOrderByExternalIdTx_eq_error {externalId ownerSub : String} {e : RepositoryError}
    (h : fetchOrderByExternalIdTx db externalId ownerSub = .error e) :
    ∃ message, e = .invariantViolation message := by
  unfold fetchOrderByExternalIdTx at h
  split at h
  · cases h
  · rename_i key hfind
    cases hrow : fetchOrderByIdTx db key.orderId with
    | error e' =>
      rw [hrow] at h
      obtain rfl := Except.error.inj h
      exact fetchOrderByIdTx_eq_error hrow
    | ok row =>
      rw [hrow] at h
      cases h

/-- An order that is stored has a view. -/
theorem orderView_ne_none (hrows : db.RowsStored) {o : OrderRecord} (ho : o ∈ db.payment.orders) :
    orderView db.payment o.id none ≠ .ok none := by
  unfold orderView
  split
  · rename_i hfind
    simpa using List.find?_eq_none.mp hfind o ho
  · rename_i row hfind
    split
    · rename_i hwindow
      obtain ⟨w, hw, hid⟩ := hrows.window row (List.mem_of_find?_eq_some hfind)
      simpa [hid] using List.find?_eq_none.mp hwindow w hw
    · intro h
      obtain ⟨_, -, hsome⟩ := Except.map_eq_ok.mp h
      cases hsome

theorem orderView_eq_error {id : Uuid} {ownerSub : Option String} {e : RepositoryError}
    (h : orderView db.payment id ownerSub = .error e) :
    ∃ message, e = .invariantViolation message := by
  unfold orderView at h
  split at h
  · cases h
  · rename_i row _
    split at h
    · cases h
    · cases hrow : rowToOrderRecord row with
      | error e' =>
        rw [hrow] at h
        obtain rfl := Except.error.inj h
        exact rowToOrderRecord_eq_error hrow
      | ok o =>
        rw [hrow] at h
        cases h

end Reads

/-! ## Index entries -/

section Keys

variable {db : LedgerDb} {command : CreateOrderCommand}

theorem mem_uniqueKeys {k : UniqueKey} : k ∈ db.uniqueKeys ↔
    (∃ a ∈ db.collector.childAccounts, k ∈ a.uniqueKeys)
      ∨ (∃ o ∈ db.payment.orders, k ∈ o.uniqueKeys)
      ∨ (∃ x ∈ db.orderKeys, k ∈ x.uniqueKeys)
      ∨ ∃ w ∈ db.payment.windows, k ∈ w.uniqueKeys := by
  simp only [LedgerDb.uniqueKeys, List.mem_append, List.mem_flatMap]

/-- A new child account has entries of its own. -/
theorem accountKeys_fresh {row : ChildAccountRecord}
    (h : checkChildAccountRow db.collector.childAccounts row = .ok ()) :
    ∀ k ∈ row.uniqueKeys, k ∉ db.uniqueKeys := by
  unfold checkChildAccountRow at h
  obtain ⟨-, h⟩ := ensure_bind_eq_ok.mp h
  obtain ⟨-, h⟩ := ensure_bind_eq_ok.mp h
  obtain ⟨hid, h⟩ := ensure_bind_eq_ok.mp h
  obtain ⟨haddress, h⟩ := ensure_bind_eq_ok.mp h
  have hsegment := ensure_eq_ok.mp h
  simp only [List.all_eq_true, decide_eq_true_eq] at hid haddress
  simp only [List.all_eq_true, Bool.not_eq_true', Bool.and_eq_false_iff,
    decide_eq_false_iff_not] at hsegment
  have hkeys : ∀ a ∈ db.collector.childAccounts, ∀ k ∈ row.uniqueKeys, k ∉ a.uniqueKeys := by
    intro a ha k hk hmem
    simp only [ChildAccountRecord.uniqueKeys, List.mem_cons, List.not_mem_nil, or_false] at hk hmem
    rcases hk with rfl | rfl | rfl
    · simp only [UniqueKey.accountId.injEq, reduceCtorEq, or_false] at hmem
      exact hid a ha hmem.symm
    · simp only [UniqueKey.accountAddress.injEq, reduceCtorEq, or_false, false_or] at hmem
      exact haddress a ha hmem.symm
    · simp only [UniqueKey.accountSegment.injEq, reduceCtorEq, false_or] at hmem
      obtain ⟨h₁, h₂, h₃⟩ := hmem
      rcases hsegment a ha with (hne | hne) | hne
      · exact hne h₁.symm
      · exact hne h₂.symm
      · exact hne h₃.symm
  intro k hk hmem
  rcases mem_uniqueKeys.mp hmem with ⟨a, ha, hka⟩ | hother
  · exact hkeys a ha k hk hka
  · simp only [ChildAccountRecord.uniqueKeys, List.mem_cons, List.not_mem_nil, or_false] at hk
    rcases hk with rfl | rfl | rfl <;>
      simp [OrderRecord.uniqueKeys, OrderKeyRecord.uniqueKeys,
        PaymentWindowRecord.uniqueKeys] at hother

/-- So does a new order. -/
theorem orderKeys_fresh (h : checkOrderRow db command = .ok ()) :
    ∀ k ∈ command.insertKeys .order, k ∉ db.uniqueKeys := by
  obtain ⟨-, hid, haddress⟩ := checkOrderRow_eq_ok h
  have hexternal : ∀ x ∈ db.orderKeys,
      ¬ (x.ownerSub = command.ownerSub ∧ x.externalId = command.externalId) := by
    unfold checkOrderRow at h
    iterate 7 obtain ⟨-, h⟩ := ensure_bind_eq_ok.mp h
    have hlast := ensure_eq_ok.mp h
    rintro x hx ⟨howner, hext⟩
    simpa [howner, hext] using List.all_eq_true.mp hlast x hx
  intro k hk hmem
  simp only [CreateOrderCommand.insertKeys, List.mem_cons, List.not_mem_nil, or_false] at hk
  rcases hk with rfl | rfl | rfl <;>
    simp only [mem_uniqueKeys, ChildAccountRecord.uniqueKeys, OrderRecord.uniqueKeys,
      OrderKeyRecord.uniqueKeys, PaymentWindowRecord.uniqueKeys, List.mem_cons, List.not_mem_nil,
      reduceCtorEq, or_self, and_false, exists_false, or_false, false_or, UniqueKey.orderId.injEq,
      UniqueKey.orderAddress.injEq, UniqueKey.orderExternal.injEq] at hmem
  · obtain ⟨o, ho, heq⟩ := hmem
    exact hid o ho heq.symm
  · obtain ⟨o, ho, heq⟩ := hmem
    exact haddress o ho heq.symm
  · obtain ⟨x, hx, heq⟩ := hmem
    exact hexternal x hx ⟨heq.1.symm, heq.2.symm⟩

/-- And a new window. -/
theorem windowKeys_fresh (h : checkPaymentWindowRow db command = .ok ()) :
    ∀ k ∈ command.insertKeys .paymentWindow, k ∉ db.uniqueKeys := by
  unfold checkPaymentWindowRow at h
  obtain ⟨-, h⟩ := ensure_bind_eq_ok.mp h
  obtain ⟨-, h⟩ := ensure_bind_eq_ok.mp h
  obtain ⟨hid, h⟩ := ensure_bind_eq_ok.mp h
  have horder := ensure_eq_ok.mp h
  simp only [List.all_eq_true, decide_eq_true_eq] at hid horder
  intro k hk hmem
  simp only [CreateOrderCommand.insertKeys, List.mem_cons, List.not_mem_nil, or_false] at hk
  rcases hk with rfl | rfl <;>
    simp only [mem_uniqueKeys, ChildAccountRecord.uniqueKeys, OrderRecord.uniqueKeys,
      OrderKeyRecord.uniqueKeys, PaymentWindowRecord.uniqueKeys, List.mem_cons, List.not_mem_nil,
      reduceCtorEq, or_self, and_false, exists_false, or_false, false_or, UniqueKey.windowId.injEq,
      UniqueKey.windowOrder.injEq] at hmem
  · obtain ⟨x, hx, heq⟩ := hmem
    exact hid x hx heq.symm
  · obtain ⟨w, hw, heq⟩ := hmem
    exact horder w hw heq.symm

/-- **An insert that passes its checks adds entries that are not there.** -/
theorem insertKeys_fresh {stage : InsertStage} (h : command.checkInsert db stage = .ok ()) :
    ∀ k ∈ command.insertKeys stage, k ∉ db.uniqueKeys := by
  cases stage with
  | childAccount =>
    unfold CreateOrderCommand.checkInsert at h
    iterate 4 obtain ⟨_, -, h⟩ := Except.bind_eq_ok.mp h
    exact accountKeys_fresh h
  | order => exact orderKeys_fresh h
  | paymentWindow => exact windowKeys_fresh h

/-- What a commit adds to the indexes is what was inserted. -/
theorem uniqueKeys_withOrder : (db.withOrder command).uniqueKeys.Perm
    (db.uniqueKeys ++ command.allKeys) := by
  rw [List.perm_iff_count]
  intro k
  simp only [LedgerDb.uniqueKeys, LedgerDb.withOrder, CreateOrderCommand.allKeys,
    CreateOrderCommand.keysBefore, CreateOrderCommand.insertKeys, List.flatMap_append,
    List.flatMap_cons, List.flatMap_nil, List.append_nil, List.count_append,
    OrderRecord.uniqueKeys, OrderKeyRecord.uniqueKeys, PaymentWindowRecord.uniqueKeys, newOrder,
    newOrderKey, newPaymentWindow, List.count_cons, List.count_nil]
  omega

end Keys

/-- Rows with entries of their own differ in whatever is part of an entry. -/
theorem nodup_map_of_flatMap {ρ κ : Type} {l : List ρ} {keys : ρ → List UniqueKey} {g : ρ → κ}
    (h : (l.flatMap keys).Nodup) (hg : ∀ r r', g r = g r' → ∃ k, k ∈ keys r ∧ k ∈ keys r') :
    (l.map g).Nodup := by
  refine List.pairwise_map.mpr ((List.nodup_flatMap.mp h).2.imp (fun {r r'} hdisjoint heq => ?_))
  obtain ⟨k, hk, hk'⟩ := hg r r' heq
  exact hdisjoint hk hk'

/-! ## Failures -/

namespace OrderServiceError

/-- **Something a request depends on has failed**: the chain, the signer or the
database. A conflict is none of these, and neither is a row refused by the index
on owner and external id. -/
def isInfrastructure : OrderServiceError → Bool
  | .chainHeadUnavailable _ | .wallet _ => true
  | .repository (.idempotencyConflict _ _ _) => false
  | .repository (.database (.uniqueViolation constraint)) =>
    decide (constraint ≠ "orders_owner_external_id_idx")
  | .repository _ => true
  | _ => false

/-- **The times of an order are out of range**, which its time to live decides. -/
def isOutOfRange : OrderServiceError → Bool
  | .timeOverflow _ | .integerOutOfRange _ => true
  | _ => false

/-- A request fails with this other than by a conflict. -/
def Fails (e : OrderServiceError) : Prop := e.isInfrastructure = true ∨ e.isOutOfRange = true

end OrderServiceError

/-- An error of the repository that is no conflict. -/
def RepositoryError.Fails (e : RepositoryError) : Prop := (OrderServiceError.repository e).Fails

section Failures

variable {db : LedgerDb} {command : CreateOrderCommand}

theorem invariantViolation_fails {e : RepositoryError}
    (h : ∃ message, e = .invariantViolation message) : e.Fails := by
  obtain ⟨message, rfl⟩ := h
  exact Or.inl rfl

theorem u32ToI32_failsOnly (value : ℕ) (field : String) :
    (u32ToI32 value field).FailsOnly RepositoryError.Fails := by
  unfold u32ToI32
  split_ifs
  · exact Except.failsOnly_ok _
  · exact Except.failsOnly_error (Or.inl rfl)

theorem validateCreateOrderCommand_failsOnly :
    (validateCreateOrderCommand command).FailsOnly RepositoryError.Fails := by
  unfold validateCreateOrderCommand
  iterate 4 refine .bind (failsOnly_ensure (Or.inl rfl)) (fun _ _ => ?_)
  exact failsOnly_ensure (Or.inl rfl)

theorem checkChildAccountRow_failsOnly (accounts : List ChildAccountRecord)
    (row : ChildAccountRecord) :
    (checkChildAccountRow accounts row).FailsOnly RepositoryError.Fails := by
  unfold checkChildAccountRow
  iterate 4 refine .bind (failsOnly_ensure (Or.inl rfl)) (fun _ _ => ?_)
  exact failsOnly_ensure (Or.inl rfl)

/-- When there is no order under its key, an order is not refused for its key. -/
theorem checkOrderRow_failsOnly (hnone : ∀ k ∈ db.orderKeys,
      ¬ (k.ownerSub = command.ownerSub ∧ k.externalId = command.externalId)) :
    (checkOrderRow db command).FailsOnly RepositoryError.Fails := by
  have hindex : db.orderKeys.all (fun k => !(decide (k.ownerSub = command.ownerSub)
      && decide (k.externalId = command.externalId))) = true := by
    rw [List.all_eq_true]
    intro k hk
    rw [Bool.not_eq_true', Bool.and_eq_false_iff, decide_eq_false_iff_not, decide_eq_false_iff_not]
    exact not_and_or.mp (hnone k hk)
  unfold checkOrderRow
  iterate 7 refine .bind (failsOnly_ensure (Or.inl rfl)) (fun _ _ => ?_)
  rw [hindex]
  exact Except.failsOnly_ok _

theorem checkPaymentWindowRow_failsOnly :
    (checkPaymentWindowRow db command).FailsOnly RepositoryError.Fails := by
  unfold checkPaymentWindowRow
  iterate 3 refine .bind (failsOnly_ensure (Or.inl rfl)) (fun _ _ => ?_)
  exact failsOnly_ensure (Or.inl rfl)

/-- **The inserts under the lock** are not refused for their key. -/
theorem checkInsert_failsOnly (stage : InsertStage) (hnone : ∀ k ∈ db.orderKeys,
      ¬ (k.ownerSub = command.ownerSub ∧ k.externalId = command.externalId)) :
    (command.checkInsert db stage).FailsOnly RepositoryError.Fails := by
  cases stage with
  | childAccount =>
    refine .bind validateCreateOrderCommand_failsOnly (fun _ _ => ?_)
    refine .bind (toI64_failsOnly (Or.inl rfl)) (fun _ _ => .bind (u32ToI32_failsOnly _ _) (fun _ _ => ?_))
    exact .bind (toI64_failsOnly (Or.inl rfl)) (fun _ _ => checkChildAccountRow_failsOnly _ _)
  | order => exact checkOrderRow_failsOnly hnone
  | paymentWindow => exact checkPaymentWindowRow_failsOnly

theorem readCreated_failsOnly : (command.readCreated db).FailsOnly RepositoryError.Fails := by
  refine .bind (fun e he => invariantViolation_fails (fetchOrderByIdTx_eq_error he))
    (fun row _ => ?_)
  cases row with
  | none => exact Except.failsOnly_error (Or.inl rfl)
  | some o => exact Except.failsOnly_ok _

theorem allocateDerivationSegment_failsOnly (cursorId : String) (row : Option WalletCursor) :
    (allocateDerivationSegment cursorId row).FailsOnly RepositoryError.Fails := by
  unfold allocateDerivationSegment
  refine .bind ?_ (fun cursor _ => .bind (.mapError (fun e _ => ?_)) (fun _ _ =>
    Except.failsOnly_ok _))
  · cases row with
    | none => exact Except.failsOnly_error (Or.inl rfl)
    | some cursor => exact Except.failsOnly_ok _
  · cases e <;> exact Or.inl rfl

theorem ofCommand_fails {e : OrderServiceError} (h : e.ofCommand) : e.Fails := by
  cases e with
  | wallet _ => exact Or.inl rfl
  | timeOverflow _ => exact Or.inr rfl
  | integerOutOfRange _ => exact Or.inr rfl
  | _ => exact h.elim

end Failures
