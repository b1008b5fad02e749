import Pay3.OrdersCreatedOnce

/-!
# One database, several tokens

A deployment runs an order service and a verify service for each token, all of
them over one database. A service knows the chain and the token it is for: it
stores new orders under them, shows amounts with that token's decimals and judges
payments by that token's confirmations. But it finds orders by their id, or by
owner and external id, and the hash of a request does not say which token it was
made for. So a service works on whatever order it is asked for, of its own token
or of another's, where the collection service refuses an order of another token.

Any number of requests run at a time. A creation goes through the steps of
`OrderSystem`, with steps of the others between them, and looks for an order
twice: before it asks the chain and the signer, and again under its lock. A
verification reads its order, asks the chain, and records what it found. The
other requests are one step each. The orders a service has returned, changed or
verified are on record, with the service's own chain and token. They match as
long as no read finds a stored order of another token (`touched_own_stream`).
-/

/-! ## The requests -/

/-- **The services of one token.** -/
structure TokenService where
  orders : OrderServiceConfig
  verify : ManualVerifyConfig
  deriving DecidableEq

/-- The chain and token of the services. -/
def TokenService.stream (service : TokenService) : StreamId :=
  ⟨service.orders.chainId, service.orders.tokenAddress⟩

/-- The chain and token of an order. -/
def OrderRecord.stream (o : OrderRecord) : StreamId := ⟨o.chainId, o.tokenAddress⟩

/-- The chain and token of a creation. -/
def CreateRequest.stream (request : CreateRequest) : StreamId :=
  ⟨request.config.chainId, request.config.tokenAddress⟩

/-- **A request to the services of a token** that is one step. -/
inductive TokenRequest
  | getOrder (id : Uuid) (ownerSub : String)
  | getOrderByExternalId (externalId ownerSub : String)
  | acceptProblemPayment (now : Timestamp) (id : Uuid) (ownerSub acceptedBy : String)
      (reason : Option String)

/-- **A verification that has read its order**: the service it was asked of, and
the rows as they were then. -/
structure PendingVerification where
  service : TokenService
  orderId : Uuid
  ownerSub : Option String
  read : PaymentDb

/-- **What happens in the deployment**: a step of a creation, a request, or one of
the two steps of a verification. -/
inductive TokenAction
  | creation (a : CreateAction)
  | request (i : ℕ) (r : TokenRequest)
  | readForVerify (t i : ℕ) (orderId : Uuid) (ownerSub : Option String)
  | recordVerified (t : ℕ) (source : ChainSource) (newId : ℕ → Uuid) (now : Timestamp)

/-- `get_order_for_owner`. -/
def getOrderForOwner (db : LedgerDb) (id : Uuid) (ownerSub : String) :
    Except OrderServiceError (Option (OrderRecord × PaymentWindowRecord)) := do
  let ownerSub ← normalizeOwnerSub ownerSub
  (orderView db.payment id (some ownerSub)).mapError OrderServiceError.repository

/-- `get_order_by_external_id_for_owner`; the external id is taken as it is. -/
def getOrderByExternalIdForOwner (db : LedgerDb) (externalId ownerSub : String) :
    Except OrderServiceError (Option (OrderRecord × PaymentWindowRecord)) := do
  let ownerSub ← normalizeOwnerSub ownerSub
  match ← (fetchOrderByExternalIdTx db externalId ownerSub).mapError
      OrderServiceError.repository with
  | none => return none
  | some (_, order) =>
    let view ← (orderView db.payment order.id (some ownerSub)).mapError
      OrderServiceError.repository
    let found ← orError view (.orderViewMissing order.id)
    return some found

/-- `accept_problem_payment_for_owner` of the order service. -/
def acceptForOwner (db : LedgerDb) (now : Timestamp) (id : Uuid) (ownerSub acceptedBy : String)
    (reason : Option String) : Except OrderServiceError (Option OrderRecord × LedgerDb) := do
  let ownerSub ← normalizeOwnerSub ownerSub
  let (answer, payment) ← (acceptProblemPaymentForOwner db.payment now id ownerSub acceptedBy
    reason).mapError OrderServiceError.repository
  return (answer, db.setPayment payment)

/-! ## The system -/

/-- **The database with the creations that run on it, the verifications that run,
and the orders that each token's services have returned, changed or verified.** -/
structure TokenSystem where
  orders : OrderSystem
  verifying : ℕ → Option PendingVerification
  touched : List (StreamId × OrderRecord)

/-- The orders of one database that another does not have as they are. -/
def LedgerDb.changedOrders (db db' : LedgerDb) : List OrderRecord :=
  db'.payment.orders.filter (fun o => decide (o ∉ db.payment.orders))

namespace TokenSystem

/-- The rows, as they are committed. -/
def db (s : TokenSystem) : LedgerDb := s.orders.db

/-- A request of a service is over: what it has returned or verified, and what it
has changed, go on record. -/
def after (s : TokenSystem) (service : TokenService) (returned : List OrderRecord)
    (db' : LedgerDb) : TokenSystem :=
  { s with
    orders := { s.orders with db := db' }
    touched := s.touched
      ++ (returned ++ s.db.changedOrders db').map (fun o => (service.stream, o)) }

/-- What a service does with a request. -/
def serve (s : TokenSystem) (service : TokenService) : TokenRequest → TokenSystem
  | .getOrder id ownerSub =>
    let answer := getOrderForOwner s.db id ownerSub
    s.after service ((answer.toOption.join).map Prod.fst).toList s.db
  | .getOrderByExternalId externalId ownerSub =>
    let answer := getOrderByExternalIdForOwner s.db externalId ownerSub
    s.after service ((answer.toOption.join).map Prod.fst).toList s.db
  | .acceptProblemPayment now id ownerSub acceptedBy reason =>
    match acceptForOwner s.db now id ownerSub acceptedBy reason with
    | .error _ => s
    | .ok (answer, db') => s.after service answer.toList db'

/-- A verification records the payments it has found: `verify_order_internal`, with
the rows it has read and those it finds now. -/
def record (s : TokenSystem) (t : ℕ) (p : PendingVerification) (source : ChainSource)
    (newId : ℕ → Uuid) (now : Timestamp) : TokenSystem :=
  let (answer, payment) := verifyOrderInternal p.service.verify source newId p.read s.db.payment
    now p.orderId p.ownerSub
  { s.after p.service ((answer.toOption.map (fun result =>
      payment.orders.filter (fun o => decide (o.id = result.orderId)))).getD [])
      (s.db.setPayment payment) with
    verifying := Function.update s.verifying t none }

/-- **A creation has taken a step**: the answer it has given, if it has, and the
order it has stored, go on record under the chain and token of its request. -/
def afterCreation (s : TokenSystem) (t : ℕ) (orders : OrderSystem) : TokenSystem :=
  { s with
    orders := { orders with answers := [] }
    touched := s.touched
      ++ (orders.answers.filterMap (fun a => a.2.toOption.map (fun r => (a.1.stream, r.2.1)))
        ++ (s.orders.pcs t).request.toList.flatMap (fun request =>
          (s.db.changedOrders orders.db).map (fun o => (request.stream, o)))) }

end TokenSystem

/-- A call is made of one of the deployment's services. -/
def CreateAction.madeOf (services : List TokenService) : CreateAction → Bool
  | .call _ config _ _ => services.any (fun service => decide (service.orders = config))
  | _ => true

section Steps

variable (keccak256 : List UInt8 → BitVec 256) (ryu : BitVec 64 → String)
  (hashtext : String → BitVec 32) (services : List TokenService)

/-- **One step of the deployment.** -/
def TokenSystem.step (s : TokenSystem) : TokenAction → Option TokenSystem
  | .creation a =>
    if a.madeOf services then
      (s.orders.step keccak256 ryu hashtext a).map (s.afterCreation a.slot)
    else none
  | .request i r => services[i]?.map (fun service => s.serve service r)
  | .readForVerify t i orderId ownerSub => services[i]?.map (fun service =>
      { s with verifying :=
          Function.update s.verifying t (some ⟨service, orderId, ownerSub, s.db.payment⟩) })
  | .recordVerified t source newId now =>
    (s.verifying t).map (fun p => s.record t p source newId now)

/-- Every order a service has returned, changed or verified is of its own chain
and token. -/
def TokenSystem.Isolated (s : TokenSystem) : Prop := ∀ t ∈ s.touched, t.2.stream = t.1

/-- **The order a request names is the service's own**: the stored order under
its id, or under its owner and external id, if there is one. -/
def TokenRequest.NamesOwn (service : TokenService) (db : LedgerDb) : TokenRequest → Prop
  | .getOrder id ownerSub | .acceptProblemPayment _ id ownerSub _ _ =>
    ∀ o ∈ db.payment.orders, o.id = id → o.ownerSub = trimText ownerSub
      → o.stream = service.stream
  | .getOrderByExternalId externalId ownerSub => ∀ k ∈ db.orderKeys, k.externalId = externalId
      → k.ownerSub = trimText ownerSub → ∀ o ∈ db.payment.orders, o.id = k.orderId
      → o.stream = service.stream

/-- Whether it is can be looked up. -/
instance (service : TokenService) (db : LedgerDb) (request : TokenRequest) :
    Decidable (request.NamesOwn service db) :=
  match request with
  | .getOrder id ownerSub => inferInstanceAs (Decidable (∀ o ∈ db.payment.orders, o.id = id
      → o.ownerSub = trimText ownerSub → o.stream = service.stream))
  | .acceptProblemPayment _ id ownerSub _ _ => inferInstanceAs (Decidable
      (∀ o ∈ db.payment.orders, o.id = id → o.ownerSub = trimText ownerSub
        → o.stream = service.stream))
  | .getOrderByExternalId externalId ownerSub => inferInstanceAs (Decidable
      (∀ k ∈ db.orderKeys, k.externalId = externalId → k.ownerSub = trimText ownerSub
        → ∀ o ∈ db.payment.orders, o.id = k.orderId → o.stream = service.stream))

/-- The stored order under the owner and the external id of a creation is of the
creation's chain and token, if there is one and it has the hash of the request. -/
def CreateRequest.NamesOwn (request : CreateRequest) (db : LedgerDb) : Prop :=
  ∀ k ∈ db.orderKeys, k.IsFor request → k.requestHash = request.hash keccak256 ryu
    → ∀ o ∈ db.payment.orders, o.id = k.orderId → o.stream = request.stream

instance (request : CreateRequest) (db : LedgerDb) :
    Decidable (request.NamesOwn keccak256 ryu db) :=
  inferInstanceAs (Decidable (∀ k ∈ db.orderKeys, k.IsFor request
    → k.requestHash = request.hash keccak256 ryu
    → ∀ o ∈ db.payment.orders, o.id = k.orderId → o.stream = request.stream))

/-- **The read of a creation finds no order of another token.** A creation reads
when it looks its external id up, and again under its lock. -/
def OrderSystem.ReadsOwn (s : OrderSystem) : CreateAction → Prop
  | .lookup t | .read t => ∀ request ∈ (s.pcs t).request, request.NamesOwn keccak256 ryu s.db
  | _ => True

instance (s : OrderSystem) (a : CreateAction) : Decidable (s.ReadsOwn keccak256 ryu a) :=
  match a with
  | .lookup t | .read t => inferInstanceAs (Decidable
      (∀ request ∈ (s.pcs t).request, request.NamesOwn keccak256 ryu s.db))
  | .call _ _ _ _ | .head _ _ | .allocate _ | .derive _ _ _ _ | .lock _ | .insert _ | .commit _
  | .view _ | .crash _ => inferInstanceAs (Decidable True)

/-- **The read of a step finds no order of another token.** A verification reads
when it begins. -/
def TokenSystem.ReadsOwn (s : TokenSystem) : TokenAction → Prop
  | .creation a => s.orders.ReadsOwn keccak256 ryu a
  | .request i r => ∀ service ∈ services[i]?, r.NamesOwn service s.db
  | .readForVerify _ i orderId ownerSub => ∀ service ∈ services[i]?, ∀ o ∈ s.db.payment.orders,
      o.id = orderId → (∀ sub ∈ ownerSub, o.ownerSub = sub) → o.stream = service.stream
  | .recordVerified _ _ _ _ => True

instance (s : TokenSystem) (a : TokenAction) :
    Decidable (s.ReadsOwn keccak256 ryu services a) :=
  match a with
  | .creation a => inferInstanceAs (Decidable (s.orders.ReadsOwn keccak256 ryu a))
  | .recordVerified _ _ _ _ => inferInstanceAs (Decidable True)
  | .request i r => inferInstanceAs (Decidable (∀ service ∈ services[i]?, r.NamesOwn service s.db))
  | .readForVerify _ i orderId ownerSub => inferInstanceAs (Decidable
      (∀ service ∈ services[i]?, ∀ o ∈ s.db.payment.orders, o.id = orderId
        → (∀ sub ∈ ownerSub, o.ownerSub = sub) → o.stream = service.stream))

end Steps

/-! ## What the rows keep -/

section Rows

variable {keccak256 : List UInt8 → BitVec 256} {ryu : BitVec 64 → String}
  {hashtext : String → BitVec 32} {db db' : LedgerDb} {stream : StreamId}

/-- No two orders have one id. -/
def LedgerDb.IdsUnique (db : LedgerDb) : Prop := (db.payment.orders.map OrderRecord.id).Nodup

/-- **An order of the stream is stored under the id.** -/
def LedgerDb.HasOrder (db : LedgerDb) (id : Uuid) (stream : StreamId) : Prop :=
  ∃ o ∈ db.payment.orders, o.id = id ∧ o.stream = stream

/-- It is the only one under the id. -/
theorem LedgerDb.HasOrder.stream_eq {id : Uuid} (h : db.HasOrder id stream)
    (hunique : db.IdsUnique) {o : OrderRecord} (ho : o ∈ db.payment.orders) (hid : o.id = id) :
    o.stream = stream := by
  obtain ⟨o', ho', hid', hstream⟩ := h
  rw [List.inj_on_of_nodup_map hunique ho ho' (hid.trans hid'.symm), hstream]

/-- The unique indexes have the ids of the orders. -/
theorem OrderInv.ids_unique {s : OrderSystem} (h : OrderInv keccak256 ryu hashtext s) :
    s.db.IdsUnique := by
  have hnodup := (List.nodup_append'.mp h.unique).1
  have horders := (List.nodup_append'.mp (List.nodup_append'.mp hnodup).2.1).1
  refine nodup_map_of_flatMap horders (fun o o' heq => ⟨.orderId o.id, List.mem_cons_self, ?_⟩)
  rw [heq]
  exact List.mem_cons_self

/-- **A change to the columns of orders** that name no other row and are in no
index: an order keeps its id, its account, its address, its chain and its token. -/
structure LedgerDb.Recomputes (db db' : LedgerDb) : Prop where
  keys : db'.orderKeys = db.orderKeys
  accounts : db'.collector.childAccounts = db.collector.childAccounts
  windows : db'.payment.windows = db.payment.windows
  orders : ∃ f : OrderRecord → OrderRecord, db'.payment.orders = db.payment.orders.map f
    ∧ ∀ o, (f o).id = o.id ∧ (f o).childAccountId = o.childAccountId
      ∧ (f o).receiveAddress = o.receiveAddress ∧ (f o).stream = o.stream

theorem LedgerDb.Recomputes.refl (db : LedgerDb) : db.Recomputes db :=
  ⟨rfl, rfl, rfl, id, (List.map_id _).symm, fun _ => ⟨rfl, rfl, rfl, rfl⟩⟩

/-- The orders keep their streams. -/
theorem LedgerDb.Recomputes.hasOrder (h : db.Recomputes db') {id : Uuid}
    (ho : db.HasOrder id stream) : db'.HasOrder id stream := by
  obtain ⟨f, horders, hf⟩ := h.orders
  obtain ⟨o, ho, hid, hstream⟩ := ho
  refine ⟨f o, ?_, (hf o).1.trans hid, (hf o).2.2.2.trans hstream⟩
  rw [horders]
  exact List.mem_map_of_mem ho

/-- The indexes do not change. -/
theorem LedgerDb.Recomputes.uniqueKeys (h : db.Recomputes db') :
    db'.uniqueKeys = db.uniqueKeys := by
  obtain ⟨f, horders, hf⟩ := h.orders
  have hkeys : ∀ o, (f o).uniqueKeys = o.uniqueKeys := by
    intro o
    unfold OrderRecord.uniqueKeys
    rw [(hf o).1, (hf o).2.2.1]
  unfold LedgerDb.uniqueKeys
  rw [h.keys, h.accounts, h.windows, horders, List.flatMap_map]
  simp only [hkeys]

/-- The rows of an order are still stored together. -/
theorem LedgerDb.Recomputes.rowsStored (h : db.Recomputes db') (hrows : db.RowsStored) :
    db'.RowsStored := by
  obtain ⟨f, horders, hf⟩ := h.orders
  refine ⟨fun o' ho' => ?_, fun k hk => ?_, fun o' ho' => ?_⟩
  · rw [horders] at ho'
    obtain ⟨o, ho, rfl⟩ := List.mem_map.mp ho'
    rw [h.accounts, (hf o).2.1, (hf o).2.2.1]
    exact hrows.account o ho
  · rw [h.keys] at hk
    obtain ⟨o, ho, hid⟩ := hrows.order k hk
    refine ⟨f o, ?_, (hf o).1.trans hid⟩
    rw [horders]
    exact List.mem_map_of_mem ho
  · rw [horders] at ho'
    obtain ⟨o, ho, rfl⟩ := List.mem_map.mp ho'
    rw [h.windows, (hf o).1]
    exact hrows.window o ho

/-- The creations that run do not see the change. -/
theorem OrderInv.recomputes {s : OrderSystem} (h : OrderInv keccak256 ryu hashtext s)
    (hanswers : s.answers = []) (hdb : s.db.Recomputes db') :
    OrderInv keccak256 ryu hashtext { s with db := db' } where
  unique := by
    rw [hdb.uniqueKeys]
    exact h.unique
  pending := h.pending
  rows := hdb.rowsStored h.rows
  sound t := by
    have hsound := h.sound t
    unfold CreatePc.Sound at hsound ⊢
    dsimp only
    rw [hdb.keys]
    exact hsound
  segments := by
    unfold LedgerDb.segments
    rw [hdb.accounts]
    exact h.segments
  answers := by
    rw [hanswers]
    exact nofun

end Rows

/-! ## What each request touches -/

section Requests

variable {service : TokenService} {stream : StreamId} {db : LedgerDb}

/-- **A request has kept to one token**: in what it has returned and in what it
has changed. -/
structure KeepsTo (stream : StreamId) (db db' : LedgerDb) (returned : List OrderRecord) :
    Prop where
  recomputes : db.Recomputes db'
  returned : ∀ o ∈ returned, o.stream = stream
  changed : ∀ o ∈ db'.payment.orders, o ∈ db.payment.orders ∨ o.stream = stream

/-- A request that has changed nothing. -/
theorem keepsTo_read {returned : List OrderRecord} (h : ∀ o ∈ returned, o.stream = stream) :
    KeepsTo stream db db returned :=
  ⟨LedgerDb.Recomputes.refl db, h, fun _ ho => Or.inl ho⟩

/-- **One order is recomputed**, one of the right token. -/
theorem keepsTo_recomputed (hunique : db.IdsUnique) {id : Uuid} (hhas : db.HasOrder id stream)
    {payment : PaymentDb} (horders : payment.orders = db.payment.orders)
    (hwindows : payment.windows = db.payment.windows) (now : Timestamp)
    {returned : List OrderRecord}
    (hreturned : ∀ o ∈ returned, o ∈ (payment.recomputed now (sortedSet [id])).orders
      ∧ o.id = id) :
    KeepsTo stream db (db.setPayment (payment.recomputed now (sortedSet [id]))) returned := by
  have hown : ∀ o ∈ (payment.recomputed now (sortedSet [id])).orders,
      o ∈ db.payment.orders ∨ o.stream = stream := by
    intro o ho
    rcases mem_updateWhere.mp ho with ⟨q, hq, hid, rfl⟩ | ⟨hold, -⟩
    · have heq : q.id = id := by simpa using hid
      rw [horders] at hq
      exact Or.inr (show q.stream = stream from hhas.stream_eq hunique hq heq)
    · rw [horders] at hold
      exact Or.inl hold
  let recompute (o : OrderRecord) : OrderRecord :=
    if decide (o.id ∈ sortedSet [id]) then recomputedOrder payment.payments payment.overrides now o
    else o
  refine ⟨⟨rfl, rfl, hwindows, recompute, ?_, fun o => ?_⟩, fun o ho => ?_, hown⟩
  · show updateWhere _ _ payment.orders = _
    rw [horders]
    rfl
  · unfold recompute
    split <;> exact ⟨rfl, rfl, rfl, rfl⟩
  · obtain ⟨hmem, hid⟩ := hreturned o ho
    rcases hown o hmem with hold | hstream
    · exact hhas.stream_eq hunique hold hid
    · exact hstream

/-- A request that has written the rows as it found them. -/
theorem keepsTo_rewritten : KeepsTo stream db (db.setPayment db.payment) [] :=
  ⟨⟨rfl, rfl, rfl, id, (List.map_id _).symm, fun _ => ⟨rfl, rfl, rfl, rfl⟩⟩, nofun,
    fun _ ho => Or.inl ho⟩

theorem normalizeOwnerSub_eq_ok {ownerSub normalized : String}
    (h : normalizeOwnerSub ownerSub = .ok normalized) : normalized = trimText ownerSub := by
  unfold normalizeOwnerSub at h
  obtain ⟨-, h⟩ := ensure_bind_eq_ok.mp h
  exact (Except.pure_eq_ok.mp h).symm

/-- **A lookup by id.** -/
theorem keepsTo_getOrder {id : Uuid} {ownerSub : String}
    (hown : (TokenRequest.getOrder id ownerSub).NamesOwn service db) :
    KeepsTo service.stream db db
      (((getOrderForOwner db id ownerSub).toOption.join).map Prod.fst).toList := by
  refine keepsTo_read (fun o ho => ?_)
  cases hanswer : getOrderForOwner db id ownerSub with
  | error e => simp [hanswer, Except.toOption] at ho
  | ok answer =>
    obtain ⟨w, rfl⟩ : ∃ w, answer = some (o, w) := by
      simpa [hanswer, Except.toOption] using ho
    obtain ⟨normalized, hnormalized, hview⟩ := Except.bind_eq_ok.mp hanswer
    obtain ⟨ho, hid, howner, -⟩ := orderView_eq_some (Except.mapError_eq_ok.mp hview)
    refine hown o ho hid ?_
    rw [← normalizeOwnerSub_eq_ok hnormalized]
    exact howner normalized rfl

/-- **A lookup by external id.** -/
theorem keepsTo_getOrderByExternalId {externalId ownerSub : String}
    (hown : (TokenRequest.getOrderByExternalId externalId ownerSub).NamesOwn service db) :
    KeepsTo service.stream db db
      (((getOrderByExternalIdForOwner db externalId ownerSub).toOption.join).map
        Prod.fst).toList := by
  refine keepsTo_read (fun o ho => ?_)
  cases hanswer : getOrderByExternalIdForOwner db externalId ownerSub with
  | error e => simp [hanswer, Except.toOption] at ho
  | ok answer =>
    obtain ⟨w, rfl⟩ : ∃ w, answer = some (o, w) := by
      simpa [hanswer, Except.toOption] using ho
    obtain ⟨normalized, hnormalized, h⟩ := Except.bind_eq_ok.mp hanswer
    obtain ⟨found, hfound, h⟩ := Except.bind_eq_ok.mp h
    cases found with
    | none => cases Except.pure_eq_ok.mp h
    | some row =>
      obtain ⟨key, order⟩ := row
      obtain ⟨view, hview, h⟩ := Except.bind_eq_ok.mp h
      obtain ⟨shown, hshown, h⟩ := Except.bind_eq_ok.mp h
      rw [Option.some.inj (Except.pure_eq_ok.mp h)] at hshown
      rw [orError_eq_ok.mp hshown] at hview
      obtain ⟨ho, hid, -⟩ := orderView_eq_some (Except.mapError_eq_ok.mp hview)
      obtain ⟨hkey, hexternal, howner, -, hkeyId⟩ :=
        fetchOrderByExternalIdTx_eq_some (Except.mapError_eq_ok.mp hfound)
      rw [normalizeOwnerSub_eq_ok hnormalized] at howner
      exact hown key hkey hexternal howner o ho (hid.trans hkeyId)

/-- **A problem payment is accepted.** -/
theorem keepsTo_accept (hunique : db.IdsUnique) {now : Timestamp} {id : Uuid}
    {ownerSub acceptedBy : String} {reason : Option String} {answer : Option OrderRecord}
    {db' : LedgerDb}
    (hown : (TokenRequest.acceptProblemPayment now id ownerSub acceptedBy reason).NamesOwn
      service db)
    (h : acceptForOwner db now id ownerSub acceptedBy reason = .ok (answer, db')) :
    KeepsTo service.stream db db' answer.toList := by
  obtain ⟨normalized, hnormalized, h⟩ := Except.bind_eq_ok.mp h
  obtain ⟨⟨answer', payment⟩, haccept, h⟩ := Except.bind_eq_ok.mp h
  obtain ⟨rfl, rfl⟩ := Prod.mk.inj (Except.pure_eq_ok.mp h)
  obtain rfl := normalizeOwnerSub_eq_ok hnormalized
  obtain ⟨rfl, rfl⟩ | ⟨ov, -, ⟨o, ho, rfl, howner⟩, hanswer, -, -, rfl⟩ :=
    acceptProblemPaymentForOwner_eq_ok (Except.mapError_eq_ok.mp haccept)
  · exact keepsTo_rewritten
  · let accepted : PaymentDb := { db.payment with
      overrides := upsertBy OrderPaymentOverride.orderId ov db.payment.overrides }
    have horders : accepted.orders = db.payment.orders := rfl
    have hwindows : accepted.windows = db.payment.windows := rfl
    exact keepsTo_recomputed hunique ⟨o, ho, rfl, hown o ho rfl howner⟩ horders hwindows now
      (fun o' ho' => hanswer o' (Option.mem_toList.mp ho'))

/-- **A verification records what it found** for an order that is of the service's own
token now. -/
theorem keepsTo_verify (hunique : db.IdsUnique) {read : PaymentDb} {source : ChainSource}
    {newId : ℕ → Uuid} {now : Timestamp} {orderId : Uuid} {ownerSub : Option String}
    {answer : Except ManualVerifyError ManualVerifyResult} {payment : PaymentDb}
    (hown : ∀ o ∈ read.orders, o.id = orderId → (∀ sub ∈ ownerSub, o.ownerSub = sub) →
      db.HasOrder orderId service.stream)
    (h : verifyOrderInternal service.verify source newId read db.payment now orderId
      ownerSub = (answer, payment)) :
    KeepsTo service.stream db (db.setPayment payment) ((answer.toOption.map (fun result =>
      payment.orders.filter (fun o => decide (o.id = result.orderId)))).getD []) := by
  unfold verifyOrderInternal at h
  split at h
  · obtain ⟨rfl, rfl⟩ := Prod.mk.inj h
    exact keepsTo_rewritten
  · rename_i found matched completeToBlock hmatch
    obtain ⟨w, _, _, hview, -⟩ := matchOrderPayments_eq_ok hmatch
    obtain ⟨ho, hid, howner, -⟩ := orderView_eq_some hview
    split at h
    · obtain ⟨rfl, rfl⟩ := Prod.mk.inj h
      exact keepsTo_rewritten
    · rename_i records db' hrecord
      obtain ⟨rfl, rfl⟩ := Prod.mk.inj h
      obtain ⟨-, written, db₁, hupserts, -, rfl⟩ := recordVerifiedPayments_eq_ok hrecord
      have hframe := upsertMatchedPayments_frame hupserts
      have horders : db₁.orders = db.payment.orders := by rw [hframe]
      have hwindows : db₁.windows = db.payment.windows := by rw [hframe]
      refine keepsTo_recomputed hunique (hown found ho hid howner) horders hwindows now
        (fun o' ho' => ?_)
      cases hresult : verifyResult found orderId now matched completeToBlock records with
      | error e => simp [hresult, Except.toOption] at ho'
      | ok result =>
        rw [hresult] at ho'
        obtain ⟨hmem, hid⟩ := List.mem_filter.mp ho'
        obtain ⟨_, -, horderId, -⟩ := verifyResult_eq_ok hresult
        exact ⟨hmem, (of_decide_eq_true hid).trans horderId⟩

end Requests

/-! ## What a creation touches -/

section Creations

variable {keccak256 : List UInt8 → BitVec 256} {ryu : BitVec 64 → String}
  {hashtext : String → BitVec 32} {s s' : OrderSystem} {t : ℕ} {pc : CreatePc}
  {request : CreateRequest}

/-- A creation that is about to answer with an order has one of its own token. -/
def CreatePc.ViewsOwn (db : LedgerDb) : CreatePc → Prop
  | .view request _ orderId => db.HasOrder orderId request.stream
  | _ => True

/-- **What the creations keep**: they answer with orders of their own tokens. -/
structure OwnTokens (s : OrderSystem) : Prop where
  views : ∀ t, (s.pcs t).ViewsOwn s.db
  answers : ∀ a ∈ s.answers, ∀ r, a.2 = .ok r → r.2.1.stream = a.1.stream

/-- An order that is stored stays stored. -/
theorem CreatePc.ViewsOwn.mono {db db' : LedgerDb}
    (hkeeps : ∀ id stream, db.HasOrder id stream → db'.HasOrder id stream)
    (h : pc.ViewsOwn db) : pc.ViewsOwn db' := by
  cases pc with
  | view request outcome orderId => exact hkeeps _ _ h
  | _ => trivial

theorem LedgerDb.HasOrder.withOrder {db : LedgerDb} {id : Uuid} {stream : StreamId}
    (h : db.HasOrder id stream) (command : CreateOrderCommand) :
    (db.withOrder command).HasOrder id stream := by
  obtain ⟨o, ho, hrest⟩ := h
  exact ⟨o, List.mem_append_left _ ho, hrest⟩

/-- The new order is of the token of the request. -/
theorem newOrder_stream {command : CreateOrderCommand}
    (hof : command.OfRequest keccak256 ryu request) :
    (newOrder command).stream = request.stream := by
  show (⟨command.chainId, command.tokenAddress⟩ : StreamId) = _
  rw [hof.chainId, hof.tokenAddress]
  rfl

theorem OwnTokens.goto (h : OwnTokens s) (hpc : pc.ViewsOwn s.db) : OwnTokens (s.goto t pc) where
  views := forall_update (P := fun _ pc' => pc'.ViewsOwn s.db) hpc (fun t' _ => h.views t')
  answers := h.answers

theorem OwnTokens.abandon (h : OwnTokens s) (hpc : pc.ViewsOwn s.db) :
    OwnTokens (s.abandon t pc) where
  views := forall_update (P := fun _ pc' => pc'.ViewsOwn s.db) hpc (fun t' _ => h.views t')
  answers := h.answers

theorem OwnTokens.answer (h : OwnTokens s) {a : CreateAnswer}
    (ha : ∀ r, a = .ok r → r.2.1.stream = request.stream) :
    OwnTokens (s.answer t request a) := by
  have habandon : OwnTokens (s.abandon t .idle) := h.abandon trivial
  refine ⟨habandon.views, fun b hb => ?_⟩
  rcases List.mem_append.mp hb with hb | hb
  · exact h.answers b hb
  · rw [List.mem_singleton.mp hb]
    exact ha

theorem OwnTokens.answer_error (h : OwnTokens s) (e : OrderServiceError) :
    OwnTokens (s.answer t request (.error e)) :=
  h.answer (fun r hr => by cases hr)

/-- **A read finds an order of the token of the request.** -/
theorem CreateRequest.NamesOwn.hasOrder {db : LedgerDb} (h : request.NamesOwn keccak256 ryu db)
    {externalId ownerSub : String} {k : OrderKeyRecord} {o : OrderRecord}
    (hfound : fetchOrderByExternalIdTx db externalId ownerSub = .ok (some (k, o)))
    (howner : ownerSub = request.ownerSub) (hexternal : externalId = request.input.externalId)
    (hhash : k.requestHash = request.hash keccak256 ryu) : db.HasOrder o.id request.stream := by
  obtain ⟨hk, hke, hko, ho, hid⟩ := fetchOrderByExternalIdTx_eq_some hfound
  exact ⟨o, ho, rfl, h k hk ⟨hko.trans howner, hke.trans hexternal⟩ hhash o ho hid⟩

/-- The first read of a request. -/
theorem OwnTokens.stepLookup (h : OwnTokens s) (hown : request.NamesOwn keccak256 ryu s.db) :
    OwnTokens (s.stepLookup keccak256 ryu t request) := by
  unfold OrderSystem.stepLookup
  split
  · exact h.answer_error _
  · exact h.goto trivial
  · rename_i k o hfound
    split
    · rename_i hhash
      exact h.goto (hown.hasOrder hfound rfl rfl hhash)
    · exact h.answer_error _

/-- The read under the lock. -/
theorem OwnTokens.stepRead (h : OwnTokens s) {command : CreateOrderCommand}
    (hof : command.OfRequest keccak256 ryu request)
    (hown : request.NamesOwn keccak256 ryu s.db) : OwnTokens (s.stepRead t request command) := by
  unfold OrderSystem.stepRead
  split
  · exact h.answer_error _
  · exact h.goto trivial
  · rename_i k o hfound
    split
    · rename_i hhash
      exact h.abandon (hown.hasOrder hfound hof.ownerSub hof.externalId
        (hhash.trans hof.requestHash))
    · exact h.answer_error _

/-- The view that is answered with. -/
theorem OwnTokens.stepView (h : OwnTokens s) (hunique : s.db.IdsUnique)
    {outcome : CreateOrderServiceOutcome} {orderId : Uuid}
    (hpc : s.pcs t = .view request outcome orderId) :
    OwnTokens (s.stepView t request outcome orderId) := by
  have hview := h.views t
  rw [hpc] at hview
  unfold OrderSystem.stepView
  split
  · exact h.answer_error _
  · exact h.answer_error _
  · rename_i o w hfound
    obtain ⟨ho, hid, -⟩ := orderView_eq_some hfound
    refine h.answer (fun r hr => ?_)
    rw [← Except.ok.inj hr]
    exact LedgerDb.HasOrder.stream_eq hview hunique ho hid

/-- **An order is committed.** -/
theorem OwnTokens.commit (h : OwnTokens s) {command : CreateOrderCommand} {order : OrderRecord}
    (hof : command.OfRequest keccak256 ryu request) (hread : command.readCreated s.db = .ok order) :
    OwnTokens { s.endTx t with
      db := s.db.withOrder command
      pcs := Function.update s.pcs t (.view request .created order.id) } where
  views := by
    refine forall_update (P := fun _ pc' => pc'.ViewsOwn (s.db.withOrder command)) ?_
      (fun t' _ => (h.views t').mono (fun _ _ ho => ho.withOrder command))
    exact ⟨newOrder command, List.mem_append_right _ (List.mem_singleton_self _),
      (readCreated_eq_ok hread).symm, newOrder_stream hof⟩
  answers := h.answers

/-- **Every step of a creation whose reads find its own token.** -/
theorem OwnTokens.step (h : OwnTokens s) (hinv : OrderInv keccak256 ryu hashtext s)
    {a : CreateAction} (hown : s.ReadsOwn keccak256 ryu a)
    (hst : s.step keccak256 ryu hashtext a = some s') : OwnTokens s' := by
  cases a with
  | call t config ownerSub input =>
    simp only [OrderSystem.step] at hst
    split at hst
    · rw [← Option.some.inj hst]
      exact h.goto trivial
    · cases hst
  | lookup t =>
    simp only [OrderSystem.step] at hst
    split at hst
    · rename_i request hpc
      rw [← Option.some.inj hst]
      exact h.stepLookup (hown request (by rw [hpc]; rfl))
    · cases hst
  | head t answer =>
    simp only [OrderSystem.step] at hst
    split at hst
    · split at hst
      · rw [← Option.some.inj hst]
        exact h.answer_error _
      · rw [← Option.some.inj hst]
        exact h.goto trivial
    · cases hst
  | allocate t =>
    simp only [OrderSystem.step] at hst
    split at hst
    · rename_i request block _
      rw [← Option.some.inj hst]
      unfold OrderSystem.stepAllocate
      split
      · exact h.answer_error _
      · rename_i allocated cursor' _
        have hpc : (CreatePc.derive request block allocated).ViewsOwn s.db := trivial
        exact ⟨(h.goto (t := t) hpc).views, h.answers⟩
    · cases hst
  | derive t answer now ids =>
    simp only [OrderSystem.step] at hst
    split at hst
    · rw [← Option.some.inj hst]
      unfold OrderSystem.stepDerive
      split
      · exact h.answer_error _
      · exact h.goto trivial
    · cases hst
  | lock t =>
    simp only [OrderSystem.step] at hst
    split at hst
    · rename_i request command _
      split_ifs at hst
      rw [← Option.some.inj hst]
      have hpc : (CreatePc.read request command).ViewsOwn s.db := trivial
      exact ⟨(h.goto (t := t) hpc).views, h.answers⟩
    · cases hst
  | read t =>
    simp only [OrderSystem.step] at hst
    split at hst
    · rename_i request command hpc
      rw [← Option.some.inj hst]
      have hsound := hinv.sound t
      rw [hpc] at hsound
      exact h.stepRead hsound.1 (hown request (by rw [hpc]; rfl))
    · cases hst
  | insert t =>
    simp only [OrderSystem.step] at hst
    split at hst
    · rename_i request command stage _
      unfold OrderSystem.stepInsert at hst
      split at hst
      · rw [← Option.some.inj hst]
        exact h.answer_error _
      · split_ifs at hst
        rw [← Option.some.inj hst]
        have hpc : (CreatePc.afterInsert request command stage).ViewsOwn s.db := by
          cases stage <;> trivial
        exact ⟨(h.goto (t := t) hpc).views, h.answers⟩
    · cases hst
  | commit t =>
    simp only [OrderSystem.step] at hst
    split at hst
    · rename_i request command hpc
      rw [← Option.some.inj hst]
      have hsound := hinv.sound t
      rw [hpc] at hsound
      unfold OrderSystem.stepCommit
      split
      · exact h.answer_error _
      · exact h.commit hsound.1 ‹_›
    · cases hst
  | view t =>
    simp only [OrderSystem.step] at hst
    split at hst
    · rename_i request outcome orderId hpc
      rw [← Option.some.inj hst]
      exact h.stepView hinv.ids_unique hpc
    · cases hst
  | crash t =>
    simp only [OrderSystem.step] at hst
    split at hst
    · cases hst
    · rw [← Option.some.inj hst]
      exact h.abandon trivial

/-- What a step of a creation changes is an order of its token. -/
theorem create_changed (hinv : OrderInv keccak256 ryu hashtext s) {a : CreateAction}
    (hst : s.step keccak256 ryu hashtext a = some s') :
    ∀ request ∈ (s.pcs a.slot).request, ∀ o ∈ s.db.changedOrders s'.db,
      o.stream = request.stream := by
  intro request hrequest o ho
  obtain ⟨hmem, hnew⟩ := List.mem_filter.mp ho
  have hnew : o ∉ s.db.payment.orders := of_decide_eq_true hnew
  rcases db_step hst with hsame | ⟨request', command, hpc, hdb⟩
  · rw [hsame] at hmem
    exact absurd hmem hnew
  · have hsound := hinv.sound a.slot
    rw [hpc] at hsound hrequest
    obtain rfl : request' = request := Option.some.inj hrequest
    rw [hdb] at hmem
    rcases List.mem_append.mp hmem with hold | hadded
    · exact absurd hold hnew
    · rw [List.mem_singleton.mp hadded]
      exact newOrder_stream hsound.1

/-- Orders stay stored. -/
theorem create_keeps {a : CreateAction} (hst : s.step keccak256 ryu hashtext a = some s')
    (id : Uuid) (stream : StreamId) (h : s.db.HasOrder id stream) : s'.db.HasOrder id stream := by
  rcases db_step hst with hsame | ⟨request, command, -, hdb⟩
  · rwa [hsame]
  · rw [hdb]
    exact h.withOrder command

end Creations

/-! ## Every run of the deployment -/

section Deployment

variable {keccak256 : List UInt8 → BitVec 256} {ryu : BitVec 64 → String}
  {hashtext : String → BitVec 32} {services : List TokenService} {s s' : TokenSystem}

variable (keccak256 ryu hashtext) in
/-- **The invariant.** -/
structure TokenInv (s : TokenSystem) : Prop where
  orders : OrderInv keccak256 ryu hashtext s.orders
  tokens : OwnTokens s.orders
  answers : s.orders.answers = []
  verifying : ∀ t, ∀ p ∈ s.verifying t, ∀ o ∈ p.read.orders, o.id = p.orderId
    → (∀ sub ∈ p.ownerSub, o.ownerSub = sub) → s.db.HasOrder p.orderId p.service.stream
  isolated : s.Isolated

/-- **A request that keeps to one token is over.** -/
theorem TokenInv.after (h : TokenInv keccak256 ryu hashtext s) {service : TokenService}
    {returned : List OrderRecord} {db' : LedgerDb}
    (hkeeps : KeepsTo service.stream s.db db' returned) :
    TokenInv keccak256 ryu hashtext (s.after service returned db') where
  orders := h.orders.recomputes h.answers hkeeps.recomputes
  tokens := ⟨fun t => (h.tokens.views t).mono (fun _ _ ho => hkeeps.recomputes.hasOrder ho),
    h.tokens.answers⟩
  answers := h.answers
  verifying := fun t p hp o ho hid howner =>
    hkeeps.recomputes.hasOrder (h.verifying t p hp o ho hid howner)
  isolated := by
    intro x hx
    rcases List.mem_append.mp hx with hx | hx
    · exact h.isolated x hx
    · obtain ⟨o, ho, rfl⟩ := List.mem_map.mp hx
      rcases List.mem_append.mp ho with ho | ho
      · exact hkeeps.returned o ho
      · obtain ⟨hmem, hnew⟩ := List.mem_filter.mp ho
        exact (hkeeps.changed o hmem).resolve_left (of_decide_eq_true hnew)

/-- A request that is one step. -/
theorem TokenInv.serve (h : TokenInv keccak256 ryu hashtext s) {service : TokenService}
    {r : TokenRequest} (hown : r.NamesOwn service s.db) :
    TokenInv keccak256 ryu hashtext (s.serve service r) := by
  cases r with
  | getOrder id ownerSub => exact h.after (keepsTo_getOrder hown)
  | getOrderByExternalId externalId ownerSub => exact h.after (keepsTo_getOrderByExternalId hown)
  | acceptProblemPayment now id ownerSub acceptedBy reason =>
    simp only [TokenSystem.serve]
    split
    · exact h
    · rename_i answer db' haccept
      exact h.after (keepsTo_accept h.orders.ids_unique hown haccept)

/-- **A step of a creation.** -/
theorem TokenInv.creation (h : TokenInv keccak256 ryu hashtext s) {a : CreateAction}
    {orders : OrderSystem} (hown : s.orders.ReadsOwn keccak256 ryu a)
    (hst : s.orders.step keccak256 ryu hashtext a = some orders) :
    TokenInv keccak256 ryu hashtext (s.afterCreation a.slot orders) := by
  have horders := h.orders.step hst
  have htokens := h.tokens.step h.orders hown hst
  refine ⟨⟨horders.unique, horders.pending, horders.rows, horders.sound, horders.segments, nofun⟩,
    ⟨htokens.views, nofun⟩, rfl, fun t p hp o ho hid howner => ?_, fun x hx => ?_⟩
  · exact create_keeps hst _ _ (h.verifying t p hp o ho hid howner)
  · rcases List.mem_append.mp hx with hx | hx
    · exact h.isolated x hx
    · rcases List.mem_append.mp hx with hx | hx
      · -- the answer the creation has given
        obtain ⟨answer, hanswer, heq⟩ := List.mem_filterMap.mp hx
        obtain ⟨r, hr, rfl⟩ := Option.map_eq_some_iff.mp heq
        exact htokens.answers answer hanswer r (Except.toOption_eq_some.mp hr)
      · -- the order it has stored
        obtain ⟨request, hrequest, hx⟩ := List.mem_flatMap.mp hx
        obtain ⟨o, ho, rfl⟩ := List.mem_map.mp hx
        exact create_changed h.orders hst request (Option.mem_toList.mp hrequest) o ho

/-- A verification reads its order. -/
theorem TokenInv.readForVerify (h : TokenInv keccak256 ryu hashtext s) (t : ℕ)
    {service : TokenService} {orderId : Uuid} {ownerSub : Option String}
    (hown : ∀ o ∈ s.db.payment.orders, o.id = orderId → (∀ sub ∈ ownerSub, o.ownerSub = sub)
      → o.stream = service.stream) :
    TokenInv keccak256 ryu hashtext { s with
      verifying := Function.update s.verifying t
        (some ⟨service, orderId, ownerSub, s.db.payment⟩) } := by
  refine ⟨h.orders, h.tokens, h.answers, fun t' p hp => ?_, h.isolated⟩
  by_cases ht : t' = t
  · have heq : ⟨service, orderId, ownerSub, s.db.payment⟩ = p := by
      simpa [ht] using hp
    subst heq
    exact fun o ho hid howner => ⟨o, ho, hid, hown o ho hid howner⟩
  · have hp' : p ∈ s.verifying t' := by simpa [Function.update_of_ne ht] using hp
    exact h.verifying t' p hp'

/-- A verification records what it has found. -/
theorem TokenInv.record (h : TokenInv keccak256 ryu hashtext s) {t : ℕ} {p : PendingVerification}
    (hp : s.verifying t = some p) (source : ChainSource) (newId : ℕ → Uuid) (now : Timestamp) :
    TokenInv keccak256 ryu hashtext (s.record t p source newId now) := by
  have hkeeps : KeepsTo p.service.stream s.db _ _ := keepsTo_verify h.orders.ids_unique
    (h.verifying t p hp) (rfl : verifyOrderInternal p.service.verify source newId p.read
      s.db.payment now p.orderId p.ownerSub = (_, _))
  have hafter := h.after hkeeps
  refine ⟨hafter.orders, hafter.tokens, hafter.answers, fun t' q hq => ?_, hafter.isolated⟩
  by_cases ht : t' = t
  · change q ∈ Function.update s.verifying t none t' at hq
    rw [ht, Function.update_self] at hq
    cases hq
  · change q ∈ Function.update s.verifying t none t' at hq
    rw [Function.update_of_ne ht] at hq
    exact hafter.verifying t' q hq

/-- **Every step whose read finds the service's own token.** -/
theorem TokenInv.step (h : TokenInv keccak256 ryu hashtext s) {a : TokenAction}
    (hown : s.ReadsOwn keccak256 ryu services a)
    (hst : s.step keccak256 ryu hashtext services a = some s') :
    TokenInv keccak256 ryu hashtext s' := by
  cases a with
  | creation a =>
    simp only [TokenSystem.step] at hst
    split_ifs at hst
    obtain ⟨orders, hstep, rfl⟩ := Option.map_eq_some_iff.mp hst
    exact h.creation hown hstep
  | request i r =>
    obtain ⟨service, hservice, rfl⟩ := Option.map_eq_some_iff.mp hst
    exact h.serve (hown service hservice)
  | readForVerify t i orderId ownerSub =>
    obtain ⟨service, hservice, rfl⟩ := Option.map_eq_some_iff.mp hst
    exact h.readForVerify t (hown service hservice)
  | recordVerified t source newId now =>
    obtain ⟨p, hp, rfl⟩ := Option.map_eq_some_iff.mp hst
    exact h.record hp source newId now

end Deployment

/-- **Every service keeps to its token**, in any run of a deployment in which no
read finds a stored order of another token, however the requests interleave. -/
theorem touched_own_stream (keccak256 : List UInt8 → BitVec 256) (ryu : BitVec 64 → String)
    (hashtext : String → BitVec 32) (services : List TokenService) (s s' : TokenSystem)
    (as : List TokenAction) (hinit : s.orders.Initial) (hidle : ∀ t, s.verifying t = none)
    (hfirst : s.touched = [])
    (hown : StepsMeet (TokenSystem.step keccak256 ryu hashtext services)
      (TokenSystem.ReadsOwn keccak256 ryu services) s as)
    (hrun : runSteps (TokenSystem.step keccak256 ryu hashtext services) s as = some s') :
    s'.Isolated := by
  have hinv : TokenInv keccak256 ryu hashtext s := by
    refine ⟨hinit.inv, ⟨fun t => ?_, ?_⟩, hinit.answers, fun t p hp => ?_, ?_⟩
    · rw [hinit.idle]
      trivial
    · rw [hinit.answers]
      exact nofun
    · rw [hidle] at hp
      cases hp
    · rw [TokenSystem.Isolated, hfirst]
      exact nofun
  have hend : TokenInv keccak256 ryu hashtext s' :=
    inv_of_run (fun _ _ _ h hP hst => h.step hP hst) hinv hown hrun
  exact hend.isolated

/-! ## A shop with two tokens -/

namespace TwoTokens

/-- The services of two tokens of one chain, which differ in how deep a payment
has to be. -/
def services : List TokenService :=
  [⟨⟨1, 0x70, 604800⟩, ⟨100, 2⟩⟩, ⟨⟨1, 0x71, 604800⟩, ⟨100, 12⟩⟩]

/-- The hashes of the two keys of the runs. -/
def hashtext (s : String) : BitVec 32 :=
  if s = "merchant:order-1" then 0x60ac760a
  else if s = "tenant:order-1" then 0x7053eb1e
  else 0

/-- No orders yet. -/
def start : TokenSystem := ⟨OneShop.start, fun _ => none, []⟩

/-- An owner asks for an order in a token. -/
def asks (t : ℕ) (config : OrderServiceConfig) (ownerSub : String) : List CreateAction :=
  [.call t config ownerSub (OneShop.input 900 100), .lookup t]

/-- The owner has no such order, and the creation reads the head of the chain and
has an address derived. -/
def prepares (t : ℕ) : List CreateAction := .head t (.ok ⟨7, 0x97⟩) :: OneShop.derives t

/-- Nothing has been paid. -/
def emptyChain : ChainSource := ⟨.ok ⟨9, 0x99⟩, fun _ => .ok [], fun n => .error (.blockNotFound n)⟩

/-- Two merchants at once, each with a token of their own. -/
def apart : List TokenAction :=
  (asks 0 ⟨1, 0x70, 604800⟩ "merchant" ++ asks 1 ⟨1, 0x71, 604800⟩ "tenant" ++ prepares 1
      ++ prepares 0 ++ OneShop.stores 0).map TokenAction.creation
    ++ [.readForVerify 0 0 0xa0 (some "merchant")]
    ++ (OneShop.stores 1).map TokenAction.creation
    ++ [.request 0 (.getOrder 0xa0 "merchant"),
      .request 1 (.getOrderByExternalId "order-1" "tenant"),
      .recordVerified 0 emptyChain (BitVec.ofNat 128) 2000000]

/-- One merchant who asks for the same order in both tokens. -/
def mixed : List TokenAction :=
  (asks 0 ⟨1, 0x70, 604800⟩ "merchant" ++ prepares 0 ++ OneShop.stores 0
    ++ asks 1 ⟨1, 0x71, 604800⟩ "merchant" ++ [CreateAction.view 1]).map TokenAction.creation

/-- The step function of the runs. -/
abbrev step : TokenSystem → TokenAction → Option TokenSystem :=
  TokenSystem.step OneShop.keccak256 OneShop.ryu hashtext services

end TwoTokens

open TwoTokens in
/-- Orders of two tokens, each created, read and verified by its own services. -/
theorem touched_own_stream_apart :
    ∃ s, runSteps TwoTokens.step start apart = some s
      ∧ s.touched.map (fun t => (t.1.tokenAddress, t.2.id))
        = [(0x70, 0xa0), (0x70, 0xa0), (0x71, 0xa1), (0x71, 0xa1), (0x70, 0xa0), (0x71, 0xa1),
          (0x70, 0xa0)]
      ∧ s.Isolated := by
  have hfacts : (runSteps TwoTokens.step start apart).map
      (fun s => s.touched.map (fun t => (t.1.tokenAddress, t.2.id)))
      = some [(0x70, 0xa0), (0x70, 0xa0), (0x71, 0xa1), (0x71, 0xa1), (0x70, 0xa0), (0x71, 0xa1),
          (0x70, 0xa0)] := by
    decide +kernel
  have hown : StepsMeet TwoTokens.step
      (TokenSystem.ReadsOwn OneShop.keccak256 OneShop.ryu services) start apart := by
    decide +kernel
  obtain ⟨s, hrun, htouched⟩ := Option.map_eq_some_iff.mp hfacts
  exact ⟨s, hrun, htouched, touched_own_stream OneShop.keccak256 OneShop.ryu TwoTokens.hashtext
    services start s apart OneShop.start_initial (fun _ => rfl) rfl hown hrun⟩

open TwoTokens in
/-- The creation in the second token is answered with the order of the first. -/
theorem answered_with_other_token :
    (services.map TokenService.stream).Nodup ∧ start.orders.Initial
      ∧ (∀ t, start.verifying t = none) ∧ start.touched = []
      ∧ ∃ s, runSteps TwoTokens.step start mixed = some s ∧ ¬ s.Isolated := by
  have hfacts : (runSteps TwoTokens.step start mixed).map
      (fun s => s.touched.map (fun t => (t.1.tokenAddress, t.2.tokenAddress)))
      = some [(0x70, 0x70), (0x70, 0x70), (0x71, 0x70)] := by
    decide +kernel
  obtain ⟨s, hrun, htouched⟩ := Option.map_eq_some_iff.mp hfacts
  refine ⟨by decide, OneShop.start_initial, fun _ => rfl, rfl, s, hrun, fun hisolated => ?_⟩
  have hmem : (0x71, 0x70) ∈ s.touched.map (fun t => (t.1.tokenAddress, t.2.tokenAddress)) := by
    rw [htouched]
    simp
  obtain ⟨t, ht, heq⟩ := List.mem_map.mp hmem
  have htoken : t.2.tokenAddress = t.1.tokenAddress :=
    congrArg StreamId.tokenAddress (hisolated t ht)
  rw [(Prod.mk.inj heq).1, (Prod.mk.inj heq).2] at htoken
  cases htoken
