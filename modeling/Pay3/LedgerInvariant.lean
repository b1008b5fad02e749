import Pay3.AutoCollection

/-!
# What holds in every state of the system

Three groups of facts. The transactions of the collector move a collection
through its statuses and settle its amount once, and leave the columns it was
created with alone (`CollectionRecord.Moves`). The tables refer to each other
as their foreign keys say (`LedgerInv`, on top of what the two sides keep for
themselves). And a later database extends an earlier one: orders and
collections are never removed and keep the columns they were created with
(`LedgerDb.Extends`).
-/

/-! ## What a call does to a collection -/

/-- **The columns of a collection that no update sets.** -/
structure CollectionTerms where
  id : Uuid
  ownerSub : String
  orderId : Uuid
  idempotencyKey : String
  requestHash : String
  childAccountId : Uuid
  chainId : ℕ
  tokenAddress : EvmAddress
  fromAddress : EvmAddress
  toAddress : EvmAddress
  deriving DecidableEq

/-- The columns a collection was created with. -/
def CollectionRecord.terms (c : CollectionRecord) : CollectionTerms :=
  ⟨c.id, c.ownerSub, c.orderId, c.idempotencyKey, c.requestHash, c.childAccountId, c.chainId,
    c.tokenAddress, c.fromAddress, c.toAddress⟩

/-- **What a call of the collector may do to a collection.** An amount is filled
in only by `insert_signed_collect_tx`, a failure comes only from `mark_failed`,
a confirmed collection stays as it is, one without a transaction moves on only
with an amount, and one that has ended comes back only with a replacement. -/
structure CollectionRecord.Moves (call : CollectionCall) (c c' : CollectionRecord) : Prop where
  terms : c'.terms = c.terms
  amount : c'.amountRaw = c.amountRaw
    ∨ ∃ tx amount, call = .insertSignedCollectTx c.id tx amount
      ∧ c'.amountRaw = c.amountRaw.or (some amount)
  queued : c'.status = .queued → c.status = .queued
  confirmed : c.status = .confirmed → c'.status = .confirmed
  failed : c'.status = .failed → c.status = .failed
    ∨ ∃ txId error, call = .markFailed txId error ∧ c.outboundTxId = some txId
  unsigned : c.outboundTxId = none → c'.status = c.status ∨ c'.amountRaw.isSome = true
  active : c'.status.isActive = true → c.status.isActive = true
    ∨ ∃ oldTxId replacement, call = .replaceSignedTx oldTxId replacement
      ∧ c.outboundTxId = some oldTxId

/-- A call that leaves a collection alone. -/
theorem CollectionRecord.Moves.refl (call : CollectionCall) (c : CollectionRecord) :
    c.Moves call c :=
  ⟨rfl, Or.inl rfl, fun h => h, fun h => h, Or.inl, fun _ => Or.inl rfl, Or.inl⟩

/-- **A call moves every collection**, and leaves the child accounts alone. -/
structure MovedBy (call : CollectionCall) (db db' : CollectorDb) : Prop where
  moves : ∃ f, db'.collections = db.collections.map f ∧ ∀ c ∈ db.collections, c.Moves call (f c)
  accounts : db'.childAccounts = db.childAccounts

namespace MovedBy

variable {call : CollectionCall} {db db' : CollectorDb}

/-- A call that leaves the collections alone. -/
theorem of_eq (hc : db'.collections = db.collections) (ha : db'.childAccounts = db.childAccounts) :
    MovedBy call db db' :=
  ⟨⟨id, by rw [hc, List.map_id], fun c _ => .refl call c⟩, ha⟩

/-- A call that updates the collections it selects. -/
theorem of_updateWhere {p : CollectionRecord → Bool} {f : CollectionRecord → CollectionRecord}
    (hc : db'.collections = updateWhere p f db.collections)
    (ha : db'.childAccounts = db.childAccounts)
    (h : ∀ c ∈ db.collections, p c = true → c.Moves call (f c)) : MovedBy call db db' := by
  refine ⟨⟨fun c => if p c then f c else c, hc, fun c hmem => ?_⟩, ha⟩
  dsimp only
  by_cases hp : p c = true
  · rw [if_pos hp]
    exact h c hmem hp
  · rw [if_neg hp]
    exact .refl call c

/-- The terms stay as they are. -/
theorem map_terms (h : MovedBy call db db') :
    db'.collections.map CollectionRecord.terms = db.collections.map CollectionRecord.terms := by
  obtain ⟨f, hf, hmoves⟩ := h.moves
  rw [hf, List.map_map]
  exact List.map_congr_left (fun c hc => (hmoves c hc).terms)

/-- A collection after the call was one before it. -/
theorem exists_of_mem (h : MovedBy call db db') {c' : CollectionRecord} (hc : c' ∈ db'.collections) :
    ∃ c ∈ db.collections, c.Moves call c' := by
  obtain ⟨f, hf, hmoves⟩ := h.moves
  rw [hf] at hc
  obtain ⟨c, hmem, rfl⟩ := List.mem_map.mp hc
  exact ⟨c, hmem, hmoves c hmem⟩

end MovedBy

/-- A mark moves the collections in the statuses it starts from, which are not
final. -/
theorem movedBy_of_mark {call : CollectionCall} {db db' : CollectorDb} {txId : Uuid} {able : String}
    {setOutbound : OutboundTxRecord → OutboundTxRecord} {starts : CollectionRecordStatus → Bool}
    {setCollection : CollectionRecord → CollectionRecord} {row : OutboundTxRecord}
    (hx : db.markOutbound txId able setOutbound starts setCollection = .ok (db', row))
    (hstarts : starts .confirmed = false) (hactive : ∀ s, starts s = true → s.isActive = true)
    (hterms : ∀ c, (setCollection c).terms = c.terms)
    (hamount : ∀ c, (setCollection c).amountRaw = c.amountRaw)
    (hqueued : ∀ c, (setCollection c).status ≠ .queued)
    (hfailed : ∀ c, (setCollection c).status = .failed → ∃ error, call = .markFailed txId error) :
    MovedBy call db db' := by
  obtain ⟨-, -, rfl⟩ := CollectorDb.markOutbound_eq_ok hx
  refine MovedBy.of_updateWhere rfl rfl (fun c _ hp => ?_)
  simp only [Bool.and_eq_true, decide_eq_true_eq] at hp
  refine ⟨hterms c, Or.inl (hamount c), fun hq => absurd hq (hqueued c), fun hc => ?_, fun hf => ?_,
    fun hnone => ?_, fun _ => Or.inl (hactive c.status hp.2)⟩
  · rw [hc, hstarts] at hp
    exact absurd hp.2 Bool.false_ne_true
  · obtain ⟨error, hcall⟩ := hfailed c hf
    exact Or.inr ⟨txId, error, hcall, hp.1⟩
  · rw [hnone] at hp
    cases hp.1

/-- **Every call of the collector** moves collections as `Moves` says. -/
theorem movedBy_of_runCall {db db' : CollectorDb} (hinv : db.CoherenceInv) {now : Timestamp}
    {call : CollectionCall} (hcall : call.isCollector = true)
    (hx : db.runCall now call = .ok db') : MovedBy call db db' := by
  cases call with
  | createCollection command => cases hcall
  | setOrders orders => cases hcall
  | addChildAccount account => cases hcall
  | claimCollectionJob leaseSeconds workerId chainId tokenAddress =>
    obtain ⟨⟨db₁, job⟩, hc, rfl⟩ := Except.map_eq_ok.mp hx
    obtain ⟨rfl, -⟩ | ⟨c, -, -, -, -, rfl⟩ := CollectorDb.claimCollectionJob_cases hc
    · exact .of_eq rfl rfl
    · exact .of_updateWhere rfl rfl (fun d _ _ =>
      ⟨rfl, Or.inl rfl, id, id, Or.inl, fun _ => Or.inl rfl, Or.inl⟩)
  | claimSignedCollectTxForBroadcast leaseSeconds workerId chainId tokenAddress =>
    obtain ⟨⟨db₁, claim⟩, hc, rfl⟩ := Except.map_eq_ok.mp hx
    obtain ⟨rfl, -⟩ | ⟨c, -, o, -, -, -, -, rfl⟩ := CollectorDb.claimCollectTx_cases hc
    · exact .of_eq rfl rfl
    · exact .of_updateWhere rfl rfl (fun d _ _ =>
      ⟨rfl, Or.inl rfl, id, id, Or.inl, fun _ => Or.inl rfl, Or.inl⟩)
  | claimBroadcastCollectTxForReceipt leaseSeconds workerId chainId tokenAddress =>
    obtain ⟨⟨db₁, claim⟩, hc, rfl⟩ := Except.map_eq_ok.mp hx
    obtain ⟨rfl, -⟩ | ⟨c, -, o, -, -, -, -, rfl⟩ := CollectorDb.claimCollectTx_cases hc
    · exact .of_eq rfl rfl
    · exact .of_updateWhere rfl rfl (fun d _ _ =>
      ⟨rfl, Or.inl rfl, id, id, Or.inl, fun _ => Or.inl rfl, Or.inl⟩)
  | reserveNonce chainId fromAddress pendingNonce =>
    obtain ⟨⟨db₁, nonce⟩, hc, rfl⟩ := Except.map_eq_ok.mp hx
    rw [(CollectorDb.reserveNonce_eq_ok hc).1]
    exact .of_eq rfl rfl
  | insertSignedCollectTx collectionId tx amount =>
    obtain ⟨⟨db₁, row⟩, hc, rfl⟩ := Except.map_eq_ok.mp hx
    obtain ⟨-, -, -, rfl⟩ := CollectorDb.insertSignedCollectTx_eq_ok hc
    refine .of_updateWhere rfl rfl (fun c _ hp => ?_)
    simp only [Bool.and_eq_true, decide_eq_true_eq] at hp
    obtain ⟨rfl, hattach⟩ := hp
    refine ⟨rfl, Or.inr ⟨tx, amount, rfl, rfl⟩, (fun hq => by cases hq), fun hconf => ?_,
      (fun hf => by cases hf), fun _ => Or.inr ?_, fun _ => Or.inl ?_⟩
    · rw [hconf] at hattach
      cases hattach
    · show (c.amountRaw.or (some amount)).isSome = true
      rw [Option.isSome_or, Option.isSome_some, Bool.or_true]
    · cases hs : c.status <;> rw [hs] at hattach <;> first | rfl | cases hattach
  | markBroadcast txId =>
    obtain ⟨⟨db₁, row⟩, hc, rfl⟩ := Except.map_eq_ok.mp hx
    exact movedBy_of_mark hc rfl (fun s => by cases s <;> decide) (fun _ => rfl) (fun _ => rfl)
      (fun _ hq => by cases hq) (fun _ hf => by cases hf)
  | replaceSignedTx oldTxId replacement =>
    obtain ⟨⟨db₁, row⟩, hc, rfl⟩ := Except.map_eq_ok.mp hx
    obtain ⟨⟨old, hold, hstatus, -⟩, -, -, rfl⟩ := CollectorDb.replaceSignedTx_eq_ok hc
    refine .of_updateWhere rfl rfl (fun c hmem hp => ?_)
    refine ⟨rfl, Or.inl rfl, (fun hq => by cases hq), fun hconf => ?_, (fun hf => by cases hf),
      fun hnone => absurd ((of_decide_eq_true hp).symm.trans hnone) (Option.some_ne_none _),
      fun _ => Or.inr ⟨oldTxId, replacement, rfl, of_decide_eq_true hp⟩⟩
    -- the transaction of a confirmed collection is confirmed, and not replaced
    obtain ⟨hmemOld, hidOld⟩ := mem_of_find?_key hold
    obtain ⟨o, ho, hid, hagrees⟩ := hinv.coherent.agrees c hmem oldTxId (of_decide_eq_true hp)
    have heq : o = old :=
      List.inj_on_of_nodup_map hinv.outbound_ids ho hmemOld (hid.trans hidOld.symm)
    rw [hconf] at hagrees
    simp only [CollectionRecordStatus.agrees, Bool.and_eq_true, decide_eq_true_eq] at hagrees
    rw [← heq, hagrees.1] at hstatus
    rcases hstatus with h | h | h | h <;> cases h
  | markConfirmed txId receiptBlock =>
    obtain ⟨⟨db₁, row⟩, hc, rfl⟩ := Except.map_eq_ok.mp hx
    exact movedBy_of_mark (CollectorDb.markConfirmed_eq_ok.mp hc).2 rfl
      (fun s => by cases s <;> decide) (fun _ => rfl) (fun _ => rfl) (fun _ hq => by cases hq)
      (fun _ hf => by cases hf)
  | markFailed txId error =>
    obtain ⟨⟨db₁, row⟩, hc, rfl⟩ := Except.map_eq_ok.mp hx
    exact movedBy_of_mark hc rfl (fun s => by cases s <;> decide) (fun _ => rfl) (fun _ => rfl)
      (fun _ hq => by cases hq) (fun _ _ => ⟨error, rfl⟩)
  | setRoutes treasuryAddresses relayerAddresses =>
    obtain rfl := Except.ok.inj hx
    exact .of_eq rfl rfl

/-! ## Totals over collections -/

/-- What one collection adds to the total of an order. -/
def CollectionRecord.share (q : CollectionRecord → Bool) (orderId : Uuid) (c : CollectionRecord) :
    ℕ :=
  if c.orderId = orderId ∧ q c = true then (c.amountRaw.map BitVec.toNat).getD 0 else 0

theorem CollectionRecord.share_of_pos {q : CollectionRecord → Bool} {orderId : Uuid}
    {c : CollectionRecord} (hid : c.orderId = orderId) (hq : q c = true) :
    c.share q orderId = (c.amountRaw.map BitVec.toNat).getD 0 :=
  if_pos ⟨hid, hq⟩

namespace LedgerDb

theorem collectedWhere_eq_sum (db : LedgerDb) (q : CollectionRecord → Bool) (orderId : Uuid) :
    db.collectedWhere q orderId
      = (db.collector.collections.map (CollectionRecord.share q orderId)).sum := by
  unfold collectedWhere
  induction db.collector.collections with
  | nil => rfl
  | cons c rows ih =>
    rw [List.filter_cons, List.map_cons, List.sum_cons, ← ih]
    unfold CollectionRecord.share
    by_cases h : c.orderId = orderId ∧ q c = true
    · rw [if_pos h, if_pos (by simp [h]), List.map_cons, List.sum_cons]
    · rw [if_neg h, if_neg (by simpa using h), Nat.zero_add]

/-- A total grows when no collection adds less than it did. -/
theorem collectedWhere_le_map {db db' : LedgerDb} {q q' : CollectionRecord → Bool} {orderId : Uuid}
    {f : CollectionRecord → CollectionRecord}
    (hf : db'.collector.collections = db.collector.collections.map f)
    (h : ∀ c ∈ db.collector.collections, c.share q orderId ≤ (f c).share q' orderId) :
    db.collectedWhere q orderId ≤ db'.collectedWhere q' orderId := by
  rw [collectedWhere_eq_sum, collectedWhere_eq_sum, hf, List.map_map]
  exact List.sum_le_sum h

/-- Over the same collections, a total is at least one over fewer of them. -/
theorem collectedWhere_mono {db : LedgerDb} {q q' : CollectionRecord → Bool} {orderId : Uuid}
    (h : ∀ c ∈ db.collector.collections, c.orderId = orderId → q c = true → q' c = true) :
    db.collectedWhere q orderId ≤ db.collectedWhere q' orderId := by
  refine collectedWhere_le_map (f := id) (by rw [List.map_id]) (fun c hc => ?_)
  unfold CollectionRecord.share
  by_cases hq : c.orderId = orderId ∧ q c = true
  · rw [if_pos hq, if_pos ⟨hq.1, h c hc hq.1 hq.2⟩]
    exact Nat.le_refl _
  · rw [if_neg hq]
    exact Nat.zero_le _

/-- Two totals over different collections add up to at most one over both. -/
theorem collectedWhere_add_le {db : LedgerDb} {q q' r : CollectionRecord → Bool} {orderId : Uuid}
    (hq : ∀ c, q c = true → r c = true) (hq' : ∀ c, q' c = true → r c = true)
    (hdisjoint : ∀ c, q c = true → q' c = true → False) :
    db.collectedWhere q orderId + db.collectedWhere q' orderId ≤ db.collectedWhere r orderId := by
  rw [collectedWhere_eq_sum, collectedWhere_eq_sum, collectedWhere_eq_sum, ← List.sum_map_add]
  refine List.sum_le_sum (fun c _ => ?_)
  unfold CollectionRecord.share
  by_cases hid : c.orderId = orderId
  · by_cases h : q c = true
    · have h' : ¬ q' c = true := fun h' => hdisjoint c h h'
      rw [if_pos ⟨hid, h⟩, if_neg (fun hc => h' hc.2), if_pos ⟨hid, hq c h⟩]
      exact Nat.le_refl _
    · rw [if_neg (fun hc => h hc.2), Nat.zero_add]
      by_cases h' : q' c = true
      · rw [if_pos ⟨hid, h'⟩, if_pos ⟨hid, hq' c h'⟩]
      · rw [if_neg (fun hc => h' hc.2)]
        exact Nat.zero_le _
  · rw [if_neg (fun hc => hid hc.1), if_neg (fun hc => hid hc.1)]
    exact Nat.zero_le _

/-- One collection's amount is part of the total. -/
theorem share_le_collectedWhere {db : LedgerDb} {q : CollectionRecord → Bool} {orderId : Uuid}
    {c : CollectionRecord} (hc : c ∈ db.collector.collections) :
    c.share q orderId ≤ db.collectedWhere q orderId := by
  rw [collectedWhere_eq_sum]
  exact List.single_le_sum (fun _ _ => Nat.zero_le _) _ (List.mem_map_of_mem hc)

/-- **A call of the collector takes nothing away** from a total over collections
it cannot move out of: an amount, once known, stays. -/
theorem collectedWhere_le_of_moved {db : LedgerDb} {call : CollectionCall}
    {collector : CollectorDb} (hmoved : MovedBy call db.collector collector)
    {q : CollectionRecord → Bool}
    (hq : ∀ c ∈ db.collector.collections, ∀ c', c.Moves call c' → q c = true → q c' = true)
    (orderId : Uuid) :
    db.collectedWhere q orderId ≤ (db.setCollector collector).collectedWhere q orderId := by
  obtain ⟨f, hf, hmoves⟩ := hmoved.moves
  refine collectedWhere_le_map (f := f) hf (fun c hc => ?_)
  have horderId : (f c).orderId = c.orderId :=
    congrArg CollectionTerms.orderId (hmoves c hc).terms
  unfold CollectionRecord.share
  by_cases hsel : c.orderId = orderId ∧ q c = true
  · rw [if_pos hsel, if_pos ⟨horderId.trans hsel.1, hq c hc (f c) (hmoves c hc) hsel.2⟩]
    rcases (hmoves c hc).amount with hsame | ⟨tx, amount, -, hamount⟩
    · rw [hsame]
    · rw [hamount]
      cases c.amountRaw with
      | none => exact Nat.zero_le _
      | some a => exact Nat.le_refl _
  · rw [if_neg hsel]
    exact Nat.zero_le _

/-- A new collection adds its share. -/
theorem collectedWhere_withCollection (db : LedgerDb) (now : Timestamp)
    (command : CreateCollectionCommand) (q : CollectionRecord → Bool) (orderId : Uuid) :
    (db.withCollection now command).collectedWhere q orderId
      = db.collectedWhere q orderId
        + (CollectorDb.newCollection now command).share q orderId := by
  rw [collectedWhere_eq_sum, collectedWhere_eq_sum]
  show ((db.collector.collections ++ [CollectorDb.newCollection now command]).map
    (CollectionRecord.share q orderId)).sum = _
  rw [List.map_append, List.sum_append, List.map_singleton, List.sum_singleton]

end LedgerDb

/-! ## The invariant -/

/-- The columns of an order that no update sets. -/
structure OrderTerms where
  id : Uuid
  ownerSub : String
  childAccountId : Uuid
  receiveAddress : EvmAddress
  chainId : ℕ
  tokenAddress : EvmAddress
  expectedAmountRaw : RawAmount
  expiresAt : Timestamp
  deriving DecidableEq

/-- The columns an order was created with. -/
def OrderRecord.terms (o : OrderRecord) : OrderTerms :=
  ⟨o.id, o.ownerSub, o.childAccountId, o.receiveAddress, o.chainId, o.tokenAddress,
    o.expectedAmountRaw, o.expiresAt⟩

/-- A collection of an order's child account, for the order's owner. -/
structure CollectionRecord.IsOf (c : CollectionRecord) (o : OrderRecord) : Prop where
  orderId : c.orderId = o.id
  ownerSub : c.ownerSub = o.ownerSub
  childAccountId : c.childAccountId = o.childAccountId
  chainId : c.chainId = o.chainId
  tokenAddress : c.tokenAddress = o.tokenAddress

/-- Both depend on the terms alone. -/
theorem CollectionRecord.IsOf.of_terms {c c' : CollectionRecord} {o o' : OrderRecord}
    (h : c.IsOf o) (hc : c'.terms = c.terms) (ho : o'.terms = o.terms) : c'.IsOf o' := by
  simp only [CollectionRecord.terms, CollectionTerms.mk.injEq] at hc
  simp only [OrderRecord.terms, OrderTerms.mk.injEq] at ho
  obtain ⟨-, hco, hcord, -, -, hcchild, hcchain, hctoken, -, -⟩ := hc
  obtain ⟨hid, hown, hchild, -, hchain, htoken, -, -⟩ := ho
  exact ⟨by rw [hcord, hid, h.orderId], by rw [hco, hown, h.ownerSub],
    by rw [hcchild, hchild, h.childAccountId], by rw [hcchain, hchain, h.chainId],
    by rw [hctoken, htoken, h.tokenAddress]⟩

/-- Nothing was accepted for an order without an override. -/
theorem LedgerDb.accepted_eq_zero {db : LedgerDb} {id : Uuid} (h : db.hasOverride id = false) :
    acceptedProblemPayment db.payment.overrides id = 0 := by
  unfold acceptedProblemPayment
  rw [List.find?_eq_none.mpr (List.any_eq_false.mp h)]
  rfl

/-- **The invariant of the system**: what the payment side and the collector
keep for themselves, and the references between the tables. -/
structure LedgerInv (db : LedgerDb) (now : Timestamp) : Prop where
  reflect : ReflectInv db.payment now
  coherence : db.collector.CoherenceInv
  expected : ∀ o ∈ db.payment.orders, 0 < o.expectedAmountRaw.toNat
  accounts : ∀ o ∈ db.payment.orders, ∃ a ∈ db.collector.childAccounts, a.id = o.childAccountId
  windows : ∀ o ∈ db.payment.orders, ∃ w ∈ db.payment.windows, w.orderId = o.id
  children : (db.payment.orders.map OrderRecord.childAccountId).Nodup
  collections : ∀ c ∈ db.collector.collections, ∃ o ∈ db.payment.orders, c.IsOf o

/-- **A later database**: nothing was removed, and the rows there were keep
the columns they were created with. -/
structure LedgerDb.Extends (db db' : LedgerDb) : Prop where
  orders : db.payment.orders.map OrderRecord.terms <+: db'.payment.orders.map OrderRecord.terms
  collections : db.collector.collections.map CollectionRecord.terms
    <+: db'.collector.collections.map CollectionRecord.terms
  overridden : ∀ id, db.hasOverride id = true → db'.hasOverride id = true

namespace LedgerDb.Extends

theorem refl (db : LedgerDb) : db.Extends db :=
  ⟨List.prefix_rfl, List.prefix_rfl, fun _ h => h⟩

theorem trans {db₁ db₂ db₃ : LedgerDb} (h : db₁.Extends db₂) (h' : db₂.Extends db₃) :
    db₁.Extends db₃ :=
  ⟨h.orders.trans h'.orders, h.collections.trans h'.collections,
    fun id hid => h'.overridden id (h.overridden id hid)⟩

variable {db db' : LedgerDb}

/-- An order is still there, with its terms. -/
theorem exists_order (h : db.Extends db') {o : OrderRecord} (ho : o ∈ db.payment.orders) :
    ∃ o' ∈ db'.payment.orders, o'.terms = o.terms :=
  List.mem_map.mp (h.orders.subset (List.mem_map_of_mem ho))

/-- A collection is still there, with its terms. -/
theorem exists_collection (h : db.Extends db') {c : CollectionRecord}
    (hc : c ∈ db.collector.collections) :
    ∃ c' ∈ db'.collector.collections, c'.terms = c.terms :=
  List.mem_map.mp (h.collections.subset (List.mem_map_of_mem hc))

/-- A collection stored under a key is still the one found under it. -/
theorem keyed (h : db.Extends db') {ownerSub idempotencyKey : String} {c : CollectionRecord}
    (hc : db.collector.keyed? ownerSub idempotencyKey = some c) :
    ∃ c', db'.collector.keyed? ownerSub idempotencyKey = some c' ∧ c'.terms = c.terms := by
  have hmap : ∀ d : CollectorDb, (d.keyed? ownerSub idempotencyKey).map CollectionRecord.terms
      = (d.collections.map CollectionRecord.terms).find? (fun t => decide (t.ownerSub = ownerSub)
        && decide (t.idempotencyKey = idempotencyKey)) := by
    intro d
    rw [List.find?_map]
    rfl
  obtain ⟨more, hmore⟩ := h.collections
  have hfound := hmap db.collector
  rw [hc] at hfound
  have hlater := hmap db'.collector
  rw [← hmore, find?_append_of_some hfound.symm] at hlater
  obtain ⟨c', hc', hterms⟩ := Option.map_eq_some_iff.mp hlater
  exact ⟨c', hc', hterms⟩

end LedgerDb.Extends

/-- Recomputed orders keep their terms. -/
theorem PaymentChange.map_terms {db db' : PaymentDb} {now : Timestamp} {orderIds : List Uuid}
    (h : PaymentChange db now orderIds db') :
    db'.orders.map OrderRecord.terms = db.orders.map OrderRecord.terms := by
  rw [h.orders]
  exact map_updateWhere (k := OrderRecord.terms)
    (f := recomputedOrder db'.payments db'.overrides now) (fun _ => rfl) db.orders

/-- An order after a transaction on payments, and the order it was. -/
theorem PaymentChange.exists_order {db db' : PaymentDb} {now : Timestamp} {orderIds : List Uuid}
    (h : PaymentChange db now orderIds db') {o' : OrderRecord} (ho : o' ∈ db'.orders) :
    ∃ o ∈ db.orders, o'.terms = o.terms := by
  have hmem : o'.terms ∈ db'.orders.map OrderRecord.terms := List.mem_map_of_mem ho
  rw [h.map_terms] at hmem
  obtain ⟨o, ho, heq⟩ := List.mem_map.mp hmem
  exact ⟨o, ho, heq.symm⟩

theorem PaymentChange.hasOverride {db : LedgerDb} {payment : PaymentDb} {now : Timestamp}
    {orderIds : List Uuid} (h : PaymentChange db.payment now orderIds payment) {id : Uuid}
    (hid : db.hasOverride id = true) : (db.setPayment payment).hasOverride id = true := by
  obtain ⟨ov, hov, heq⟩ := List.any_eq_true.mp hid
  obtain ⟨ov', hov', heq'⟩ := List.mem_map.mp (h.overridden ov hov)
  refine List.any_eq_true.mpr ⟨ov', hov', decide_eq_true ?_⟩
  rw [heq']
  exact of_decide_eq_true heq

namespace LedgerInv

variable {db : LedgerDb} {now now' : Timestamp}

theorem mono (h : LedgerInv db now) (hle : now ≤ now') : LedgerInv db now' :=
  { h with reflect := h.reflect.mono hle }

/-- Two orders of one child account are one order. -/
theorem order_eq (h : LedgerInv db now) {o o' : OrderRecord} (ho : o ∈ db.payment.orders)
    (ho' : o' ∈ db.payment.orders) (hchild : o.childAccountId = o'.childAccountId) : o = o' :=
  List.inj_on_of_nodup_map h.children ho ho' hchild

/-- What an order was paid is what was confirmed on time and what was accepted. -/
theorem paidAmountRaw_eq (h : LedgerInv db now) {o : OrderRecord} (ho : o ∈ db.payment.orders) :
    o.paidAmountRaw = confirmedOnTimeTotal db.payment.payments o.id
      + acceptedProblemPayment db.payment.overrides o.id := by
  obtain ⟨t, -, ht⟩ := h.reflect.reflects o ho
  exact (congrArg OrderRecord.paidAmountRaw ht).symm

/-- **An order is paid** exactly when that reaches its price. -/
theorem status_eq_paid (h : LedgerInv db now) {o : OrderRecord} (ho : o ∈ db.payment.orders) :
    o.status = .paid ↔ o.expectedAmountRaw.toNat ≤ o.paidAmountRaw := by
  obtain ⟨t, -, ht⟩ := h.reflect.reflects o ho
  have hstatus := congrArg OrderRecord.status ht
  rw [← hstatus, h.paidAmountRaw_eq ho]
  exact recomputeStatusFromTotals_eq_paid

/-- **A creation of an order** keeps the invariant. -/
theorem withOrder (h : LedgerInv db now) {command : CreateOrderCommand} (hc : db.Creates command) :
    LedgerInv (db.withOrder command) now where
  reflect := h.reflect.of_withOrder hc
  coherence := by
    have hinsert : db.collector.insertChildAccount command.childAccount = .ok { db.collector with
        childAccounts := db.collector.childAccounts ++ [command.childAccount] } := by
      unfold CollectorDb.insertChildAccount
      refine ensure_bind_eq_ok.mpr ⟨?_, ensure_bind_eq_ok.mpr ⟨?_, rfl⟩⟩
      · exact List.all_eq_true.mpr (fun a ha => decide_eq_true (hc.freshAccount a ha))
      · exact List.all_eq_true.mpr (fun a ha => decide_eq_true (hc.freshAccountAddress a ha))
    exact (h.coherence.addAccount hinsert).of_eq rfl rfl rfl
  expected := by
    intro o ho
    rcases List.mem_append.mp ho with ho | ho
    · exact h.expected o ho
    · obtain rfl := List.mem_singleton.mp ho
      exact hc.expected
  accounts := by
    intro o ho
    rcases List.mem_append.mp ho with ho | ho
    · obtain ⟨a, ha, hid⟩ := h.accounts o ho
      exact ⟨a, List.mem_append_left _ ha, hid⟩
    · obtain rfl := List.mem_singleton.mp ho
      exact ⟨command.childAccount, List.mem_append_right _ (List.mem_singleton_self _), rfl⟩
  windows := by
    intro o ho
    rcases List.mem_append.mp ho with ho | ho
    · obtain ⟨w, hw, hid⟩ := h.windows o ho
      exact ⟨w, List.mem_append_left _ hw, hid⟩
    · obtain rfl := List.mem_singleton.mp ho
      exact ⟨newPaymentWindow command, List.mem_append_right _ (List.mem_singleton_self _), rfl⟩
  children := by
    show ((db.payment.orders ++ [newOrder command]).map OrderRecord.childAccountId).Nodup
    rw [List.map_append]
    refine List.Nodup.append h.children (List.nodup_singleton _) ?_
    -- the account is new, and every order has one that was there
    intro id hid hnew
    obtain ⟨o, ho, rfl⟩ := List.mem_map.mp hid
    obtain ⟨a, ha, haid⟩ := h.accounts o ho
    exact hc.freshAccount a ha (haid.trans (List.mem_singleton.mp hnew))
  collections := by
    intro c hcol
    obtain ⟨o, ho, hof⟩ := h.collections c hcol
    exact ⟨o, List.mem_append_left _ ho, hof⟩

/-- **A transaction on payments** keeps the invariant. -/
theorem setPayment (h : LedgerInv db now) {payment : PaymentDb} {orderIds : List Uuid}
    (hc : PaymentChange db.payment now orderIds payment) : LedgerInv (db.setPayment payment) now where
  reflect := h.reflect.of_paymentChange hc
  coherence := h.coherence.of_eq rfl rfl rfl
  expected := by
    intro o ho
    obtain ⟨o', ho', hterms⟩ := hc.exists_order ho
    have hexp : o.expectedAmountRaw = o'.expectedAmountRaw :=
      congrArg OrderTerms.expectedAmountRaw hterms
    rw [hexp]
    exact h.expected o' ho'
  accounts := by
    intro o ho
    obtain ⟨o', ho', hterms⟩ := hc.exists_order ho
    have hchild : o.childAccountId = o'.childAccountId := congrArg OrderTerms.childAccountId hterms
    rw [hchild]
    exact h.accounts o' ho'
  windows := by
    intro o ho
    obtain ⟨o', ho', hterms⟩ := hc.exists_order ho
    have hid : o.id = o'.id := congrArg OrderTerms.id hterms
    obtain ⟨w, hw, hwo⟩ := h.windows o' ho'
    exact ⟨w, hc.windows ▸ hw, hwo.trans hid.symm⟩
  children := by
    have hmap : payment.orders.map OrderRecord.childAccountId
        = db.payment.orders.map OrderRecord.childAccountId := by
      have hterms := congrArg (List.map OrderTerms.childAccountId) hc.map_terms
      rwa [List.map_map, List.map_map] at hterms
    show (payment.orders.map OrderRecord.childAccountId).Nodup
    rw [hmap]
    exact h.children
  collections := by
    intro c hcol
    obtain ⟨o, ho, hof⟩ := h.collections c hcol
    have hmem : o.terms ∈ payment.orders.map OrderRecord.terms := by
      rw [hc.map_terms]
      exact List.mem_map_of_mem ho
    obtain ⟨o', ho', heq⟩ := List.mem_map.mp hmem
    exact ⟨o', ho', hof.of_terms rfl heq⟩

/-- **A granted request** keeps the invariant: the collection is the order's. -/
theorem withCollection (h : LedgerInv db now) {keccak256 : List UInt8 → BitVec 256}
    {config : CollectionServiceConfig} {route : CollectionRoute} {input : CreateCollectionInput}
    {collectionId : Uuid} {command : CreateCollectionCommand} {o : OrderRecord}
    (hg : Grants keccak256 config db now route input collectionId command o) :
    LedgerInv (db.withCollection now command) now where
  reflect := h.reflect
  coherence := (h.coherence.create hg.inserts).of_eq rfl rfl rfl
  expected := h.expected
  accounts := h.accounts
  windows := h.windows
  children := h.children
  collections := by
    intro c hcol
    rcases List.mem_append.mp hcol with hcol | hcol
    · exact h.collections c hcol
    · obtain rfl := List.mem_singleton.mp hcol
      refine ⟨o, hg.mem, ?_⟩
      rw [hg.command_eq]
      exact ⟨rfl, rfl, rfl, hg.chain.symm, hg.token.symm⟩

/-- **A call of the collector** keeps the invariant. -/
theorem setCollector (h : LedgerInv db now) {call : CollectionCall} {collector : CollectorDb}
    (hcall : call.isCollector = true) (hx : db.collector.runCall now call = .ok collector) :
    LedgerInv (db.setCollector collector) now := by
  have hmoved := movedBy_of_runCall h.coherence hcall hx
  refine ⟨h.reflect, (h.coherence.call hx).of_eq rfl rfl rfl, h.expected, fun o ho => ?_,
    h.windows, h.children, fun c hc => ?_⟩
  · obtain ⟨a, ha, hid⟩ := h.accounts o ho
    exact ⟨a, hmoved.accounts ▸ ha, hid⟩
  · obtain ⟨c₀, hc₀, hmove⟩ := hmoved.exists_of_mem hc
    obtain ⟨o, ho, hof⟩ := h.collections c₀ hc₀
    exact ⟨o, ho, hof.of_terms hmove.terms rfl⟩

end LedgerInv

namespace LedgerSystem

variable {keccak256 : List UInt8 → BitVec 256} {config : CollectionServiceConfig}
  {s s' : LedgerSystem} {a : Timestamp × LedgerAction}

/-- **One step** keeps the invariant. -/
theorem ledgerInv_of_step (h : LedgerInv s.db s.now) (hs : step keccak256 config s a = some s') :
    LedgerInv s'.db s'.now := by
  obtain ⟨hle, -, hchange⟩ := step_eq_some hs
  have hinv := h.mono hle
  generalize s'.db = db' at hchange ⊢
  cases hchange with
  | unchanged => exact hinv
  | createOrder command ha hc => exact hinv.withOrder hc
  | payment op payment ha hop =>
    obtain ⟨orderIds, hc⟩ := paymentChange_of_run hop
    exact hinv.setPayment hc
  | collection route input collectionId command o ha hg => exact hinv.withCollection hg
  | collector call collector ha hcall hx => exact hinv.setCollector hcall hx

/-- **One step** extends the database. -/
theorem extends_of_step (h : LedgerInv s.db s.now) (hs : step keccak256 config s a = some s') :
    s.db.Extends s'.db := by
  obtain ⟨-, -, hchange⟩ := step_eq_some hs
  generalize s'.db = db' at hchange ⊢
  cases hchange with
  | unchanged => exact .refl s.db
  | createOrder command ha hc =>
    refine ⟨?_, List.prefix_rfl, fun _ hid => hid⟩
    show _ <+: (s.db.payment.orders ++ [newOrder command]).map OrderRecord.terms
    rw [List.map_append]
    exact List.prefix_append _ _
  | payment op payment ha hop =>
    obtain ⟨orderIds, hc⟩ := paymentChange_of_run hop
    refine ⟨?_, List.prefix_rfl, fun _ hid => hc.hasOverride hid⟩
    exact ⟨[], (List.append_nil _).trans hc.map_terms.symm⟩
  | collection route input collectionId command o ha hg =>
    refine ⟨List.prefix_rfl, ?_, fun _ hid => hid⟩
    show _ <+: (s.db.collector.collections ++ [CollectorDb.newCollection _ command]).map
      CollectionRecord.terms
    rw [List.map_append]
    exact List.prefix_append _ _
  | collector call collector ha hcall hx =>
    refine ⟨List.prefix_rfl, ?_, fun _ hid => hid⟩
    exact ⟨[], (List.append_nil _).trans (movedBy_of_runCall h.coherence hcall hx).map_terms.symm⟩

theorem Initial.ledgerInv (h : Initial s) : LedgerInv s.db s.now where
  reflect := h.noOrders.reflectInv s.now
  coherence := h.collector.coherenceInv
  expected := by
    rw [h.noOrders.orders]
    exact fun o ho => absurd ho List.not_mem_nil
  accounts := by
    rw [h.noOrders.orders]
    exact fun o ho => absurd ho List.not_mem_nil
  windows := by
    rw [h.noOrders.orders]
    exact fun o ho => absurd ho List.not_mem_nil
  children := by
    rw [h.noOrders.orders]
    exact List.nodup_nil
  collections := by
    rw [h.collector.collections]
    exact fun c hc => absurd hc List.not_mem_nil

/-- **The invariant holds in every state of a run.** -/
theorem ledgerInv_of_run {as : List (Timestamp × LedgerAction)} (h : LedgerInv s.db s.now)
    (hr : runSteps (step keccak256 config) s as = some s') : LedgerInv s'.db s'.now :=
  inv_of_run (I := fun s => LedgerInv s.db s.now) (P := fun _ _ => True)
    (fun _ _ _ hinv _ hs => ledgerInv_of_step hinv hs) h
    (stepsMeet_of_forall (fun _ _ => trivial) s as) hr

/-- **A run extends the database.** -/
theorem extends_of_run {as : List (Timestamp × LedgerAction)} (h : LedgerInv s.db s.now)
    (hr : runSteps (step keccak256 config) s as = some s') : s.db.Extends s'.db :=
  rel_of_run (I := fun s => LedgerInv s.db s.now) (R := fun s s' => s.db.Extends s'.db)
    (P := fun _ _ => True) (fun s => .refl s.db) (fun _ _ _ h h' => h.trans h')
    (fun _ _ _ hinv _ hs => ledgerInv_of_step hinv hs)
    (fun _ _ _ hinv _ hs => extends_of_step hinv hs) h
    (stepsMeet_of_forall (fun _ _ => trivial) s as) hr

end LedgerSystem
