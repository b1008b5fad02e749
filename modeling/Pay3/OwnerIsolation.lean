import Pay3.OwnerWrites

/-!
# Owners do not see each other

The requests of all owners run over one database, and between two statements of
one any statements of the others may come. Still an owner is answered as if
nobody else was there: the answers to its requests, errors among them, are those
its own requests get on its own part of the database with nothing in between
but each other, and its part of the database is what they leave there.

Verification is not among the requests. Payments are kept by their place on the
chain, for all owners together, so the row of one owner can make the
verification of another fail.

What the requests share is not in the database. A segment is allocated from one
cursor for all owners and shows in the derivation path of an order; the head of
the chain is the same for all. Both are data of a request here, and the same in
the two runs that are compared.

A principal is the owner its trimmed subject names, and draws identifiers that
are its own.
-/

variable {h : Holders} {d : String}

/-! ## Programs of an owner -/

section Rules

variable {ε α : Type} {P : α → Prop}

/-- **A program over the database that is confined to an owner**, with what it
results in. -/
abbrev OwnerConfined (h : Holders) (d : String) (P : α → Prop) (x : DbProgram ε α) : Prop :=
  Confined (LedgerDb.only h) (LedgerDb.Tenanted h) d P x

theorem confined_compute {x : Except ε α} (hx : IfOk P x) :
    OwnerConfined h d P (DbProgram.compute x) := confined_ofExcept hx

theorem confined_query {f : LedgerDb → α}
    (hown : ∀ db, db.Tenanted h → f (db.only h d) = f db) (hP : ∀ db, db.Tenanted h → P (f db)) :
    OwnerConfined h d P (DbProgram.query f : DbProgram ε α) :=
  ⟨⟨P, CallConfined.of_read hown hP, fun _ ha => ifOk_ok ha⟩⟩

theorem confined_fetch {f : LedgerDb → Except ε α}
    (hown : ∀ db, db.Tenanted h → f (db.only h d) = f db)
    (hP : ∀ db, db.Tenanted h → IfOk P (f db)) : OwnerConfined h d P (DbProgram.fetch f) :=
  ⟨⟨IfOk P, CallConfined.of_read hown hP, fun _ ha => ha⟩⟩

/-- A transaction is confined to an owner if it does to the owner's part what it
does to the whole, and leaves the parts of the others. -/
theorem confined_transaction {f : LedgerDb → Except ε (α × LedgerDb)}
    (hown : ∀ db, db.Tenanted h → f (db.only h d) = (fun x => (x.1, x.2.only h d)) <$> f db)
    (hleaves : ∀ db a db', db.Tenanted h → f db = .ok (a, db') →
      db'.Tenanted h ∧ (∀ other, other ≠ d → db'.only h other = db.only h other) ∧ P a) :
    OwnerConfined h d P (DbProgram.transaction f) := by
  refine ⟨⟨IfOk P, CallConfined.of_transaction ?_ ?_ (ifOk_error P) hown ?_, fun _ ha => ha⟩⟩
  · exact fun db a db' ht hf => (hleaves db a db' ht hf).1
  · exact fun db a db' ht hf => ifOk_ok (hleaves db a db' ht hf).2.2
  · exact fun db a db' other ht hf hne => (hleaves db a db' ht hf).2.1 other hne

/-- What needs no call comes first. -/
theorem confined_compute_bind {β : Type} {x : Except ε β} {f : β → DbProgram ε α}
    (hf : ∀ b, OwnerConfined h d P (f b)) : OwnerConfined h d P (DbProgram.compute x >>= f) :=
  confined_bind (P := fun _ => True) (confined_compute (fun _ _ => trivial)) (fun b _ => hf b)

end Rules

/-! ## Services -/

section Services

variable {sub : String}

/-- An owner in normal form is the same owner. -/
theorem normalizeOwnerSub_ok (hsub : trimText sub = d) :
    IfOk (fun s => trimText s = d) (normalizeOwnerSub sub) := by
  intro s hs
  unfold normalizeOwnerSub at hs
  obtain ⟨-, hs⟩ := ensure_bind_eq_ok.mp hs
  rw [← Except.pure_eq_ok.mp hs, trimText_trimText, hsub]

/-- A view that may be there, of an order of the owner. -/
def ViewHeldBy (h : Holders) (d : String) (view : Option OrderView) : Prop :=
  ∀ v, view = some v → v.order.HeldBy h d

theorem confined_fetchOrderView {id : Uuid} {ownerSub : Option String}
    (hmine : (∃ sub, ownerSub = some sub ∧ trimText sub = d) ∨ h.order id = d) :
    OwnerConfined h d (ViewHeldBy h d) (DbProgram.fetch (fetchOrderView · id ownerSub)) :=
  confined_fetch (fun _ ht => fetchOrderView_only ht hmine)
    (fun _ ht _ hview _ hv => heldBy_of_fetchOrderView ht (hv ▸ hview) hmine)

theorem confined_fetchByExternalId {externalId : String} (hsub : trimText sub = d) :
    OwnerConfined h d (fun found => ∀ x, found = some x → h.order x.2.id = d)
      (DbProgram.fetch (fetchOrderByExternalIdTx · externalId sub)) :=
  confined_fetch (fun _ ht => fetchOrderByExternalIdTx_only ht hsub)
    (fun _ ht _ hfetch ⟨_, _⟩ hx => order_of_fetchOrderByExternalIdTx ht hsub (hx ▸ hfetch))

theorem orError_ok {α ε : Type} {P : α → Prop} {x : Option α} {e : ε} (hx : ∀ a, x = some a → P a) :
    IfOk P (orError x e) :=
  fun a ha => hx a (orError_eq_ok.mp ha)

theorem confined_expectOrderView {id : Uuid} (hid : h.order id = d) :
    OwnerConfined h d (fun v => v.order.HeldBy h d) (Api.expectOrderView id) :=
  confined_bind (confined_adapt (confined_fetchOrderView (Or.inr hid)))
    (fun _ hview => confined_compute (orError_ok hview))

theorem confined_getOrderForOwner {id : Uuid} (hsub : trimText sub = d) :
    OwnerConfined h d (ViewHeldBy h d) (Api.getOrderForOwner id sub) :=
  confined_bind (confined_compute (normalizeOwnerSub_ok hsub)) (fun s hs =>
    confined_adapt (confined_fetchOrderView (Or.inl ⟨s, rfl, hs⟩)))

theorem confined_getOrderByExternalIdForOwner {externalId : String} (hsub : trimText sub = d) :
    OwnerConfined h d (ViewHeldBy h d) (Api.getOrderByExternalIdForOwner externalId sub) := by
  refine confined_bind (confined_compute (normalizeOwnerSub_ok hsub)) (fun s hs => ?_)
  refine confined_bind (confined_adapt (confined_fetchByExternalId hs)) (fun found hfound => ?_)
  cases found with
  | none => exact confined_ok nofun
  | some x =>
    refine confined_bind (confined_adapt (confined_fetchOrderView (Or.inl ⟨s, rfl, hs⟩)))
      (fun view hview => ?_)
    exact confined_map (confined_compute (orError_ok hview))
      (fun v hv w hw => Option.some.inj hw ▸ hv)

/-- **The diagnostics of an order**: only what the owner has is read. -/
theorem confined_getOrderPaymentDiagnosticsForOwner {id : Uuid} (hsub : trimText sub = d)
    (problemFundsAddress : EvmAddress) :
    OwnerConfined h d (fun _ => True)
      (Api.getOrderPaymentDiagnosticsForOwner id sub problemFundsAddress) := by
  refine confined_bind (P := fun orderExists => orderExists = true → h.order id = d)
    (confined_query (fun _ _ => any_orders_only hsub) (fun _ ht hany => order_of_any ht hsub hany))
    (fun orderExists hmine => ?_)
  cases orderExists with
  | false => exact confined_ok trivial
  | true =>
    have hid : h.order id = d := hmine rfl
    refine confined_bind (confined_query (fun _ _ => problemTotals_only hid)
      (fun _ _ => trivial)) (fun totals (_ : True) => ?_)
    refine confined_bind (confined_query (fun _ _ => latestProblemPayment_only hid)
      (fun _ _ => trivial)) (fun latest (_ : True) => ?_)
    refine confined_bind (confined_query (fun _ ht => problemCollection_only ht hid _)
      (fun _ _ => trivial)) (fun collection (_ : True) => ?_)
    refine confined_bind (confined_query (fun _ _ => manualAcceptance_only hid)
      (fun _ _ => trivial)) (fun acceptance (_ : True) => ?_)
    refine confined_compute_bind (fun problem => ?_)
    refine confined_compute_bind (fun late => ?_)
    exact confined_bind (confined_compute (fun _ _ => trivial))
      (fun outsideWindow (_ : True) => confined_ok trivial)

theorem confined_acceptProblemPayment {id : Uuid} (hsub : trimText sub = d) (now : Timestamp)
    (acceptedBy : String) (reason : Option String) :
    OwnerConfined h d (ViewHeldBy h d) (Api.acceptProblemPayment now id sub acceptedBy reason) := by
  refine confined_bind (confined_compute (normalizeOwnerSub_ok hsub)) (fun s hs => ?_)
  refine confined_adapt (confined_transaction (fun db ht => acceptProblemPaymentTx_only ht hs)
    (fun db view db' ht htx => ?_))
  obtain ⟨hkeeps, hothers⟩ := acceptProblemPaymentTx_leaves ht hs htx
  exact ⟨hkeeps, hothers, fun v hv => heldBy_of_acceptProblemPaymentTx ht hs (hv ▸ htx)⟩

theorem confined_getCollectionForOwner {id : Uuid} (hsub : trimText sub = d) :
    OwnerConfined h d (fun _ => True) (Api.getCollectionForOwner id sub) := by
  have htrim : trimText (trimText sub) = d := by rw [trimText_trimText, hsub]
  refine confined_compute_bind (fun _ => ?_)
  exact confined_query (fun _ _ => fetchCollectionForOwner_only htrim) (fun _ _ => trivial)

/-! ### Creating orders and collections -/

/-- **What a creation draws and is given is its owner's.** -/
structure Api.CreateOrderWorld.HeldBy (h : Holders) (world : Api.CreateOrderWorld) (d : String) :
    Prop where
  order : h.order world.ids.orderId = d
  account : h.account world.ids.childAccountId = d
  window : h.window world.ids.paymentWindowId = d
  derived : ∀ allocated derived, world.allocated = .ok allocated →
    deriveAddress world.deriver allocated = .ok derived → h.address derived.address = d
      ∧ h.segment derived.signerKeyRef derived.derivationVersion derived.segment = d

variable {keccak256 : List UInt8 → BitVec 256} {ryu : BitVec 64 → String}

/-- The request of a call is of the same owner. -/
theorem ofCall_ok {config : OrderServiceConfig} {input : CreateOrderInput}
    (hsub : trimText sub = d) :
    IfOk (fun request => trimText request.ownerSub = d) (CreateRequest.ofCall config sub input) := by
  intro request hrequest
  unfold CreateRequest.ofCall at hrequest
  obtain ⟨s, hs, hrequest⟩ := Except.bind_eq_ok.mp hrequest
  obtain ⟨input', -, hrequest⟩ := Except.bind_eq_ok.mp hrequest
  rw [← Except.pure_eq_ok.mp hrequest]
  exact normalizeOwnerSub_ok hsub s hs

/-- The command of a request has identifiers of its owner. -/
theorem createOrderCommand_ok {world : Api.CreateOrderWorld} (hworld : world.HeldBy h d)
    {request : CreateRequest} (hsub : trimText request.ownerSub = d) {block : ChainBlockRef}
    {allocated : AllocatedDerivation} (hallocated : world.allocated = .ok allocated) :
    IfOk (fun command => command.HeldBy h d) (createOrderCommand keccak256 ryu world.deriver
      request block allocated world.now world.ids) := by
  intro command hcommand
  unfold createOrderCommand at hcommand
  obtain ⟨derived, hderived, hcommand⟩ := Except.bind_eq_ok.mp hcommand
  obtain ⟨_, -, hcommand⟩ := Except.bind_eq_ok.mp hcommand
  obtain ⟨_, -, hcommand⟩ := Except.bind_eq_ok.mp hcommand
  obtain ⟨_, -, hcommand⟩ := Except.bind_eq_ok.mp hcommand
  obtain ⟨_, -, hcommand⟩ := Except.bind_eq_ok.mp hcommand
  obtain ⟨haddress, hsegment⟩ := hworld.derived allocated derived hallocated hderived
  rw [← Except.ok.inj hcommand]
  exact ⟨hsub, hworld.order, hworld.window, hworld.account, haddress, hsegment⟩

/-- **The creation of an order.** -/
theorem confined_createOrderForOwner {config : OrderServiceConfig} {input : CreateOrderInput}
    {world : Api.CreateOrderWorld} (hsub : trimText sub = d) (hworld : world.HeldBy h d) :
    OwnerConfined h d (fun x => x.2.order.HeldBy h d)
      (Api.createOrderForOwner keccak256 ryu config sub input world) := by
  refine confined_bind (confined_compute (ofCall_ok hsub)) (fun request hrequest => ?_)
  refine confined_bind (confined_adapt (confined_fetchByExternalId hrequest))
    (fun found hfound => ?_)
  cases found with
  | some x =>
    refine confined_compute_bind (fun _ => ?_)
    exact confined_bind (confined_expectOrderView (hfound x rfl))
      (fun view hview => confined_ok hview)
  | none =>
    refine confined_compute_bind (fun block => ?_)
    refine confined_bind (P := fun allocated => world.allocated = .ok allocated)
      (confined_compute (fun _ ha => Except.mapError_eq_ok.mp ha)) (fun allocated hallocated => ?_)
    refine confined_bind (confined_compute (createOrderCommand_ok hworld hrequest hallocated))
      (fun command hcommand => ?_)
    refine confined_bind (P := fun outcome => h.order outcome.order.id = d)
      (confined_adapt (confined_transaction (fun _ ht => createOrderIdempotent_only ht hcommand)
        (fun _ _ _ ht hcreate => createOrderIdempotent_leaves ht hcommand hcreate)))
      (fun outcome hid => ?_)
    cases outcome with
    | created order =>
      exact confined_bind (confined_expectOrderView hid) (fun view hview => confined_ok hview)
    | existing order =>
      exact confined_bind (confined_expectOrderView hid) (fun view hview => confined_ok hview)

/-- A request in normal form is of the same principal. -/
theorem normalizeCreateCollectionInput_ok {input : CreateCollectionInput} :
    IfOk (fun i => i.principalSub = input.principalSub) (normalizeCreateCollectionInput input) := by
  intro i hi
  unfold normalizeCreateCollectionInput at hi
  obtain ⟨_, -, hi⟩ := Except.bind_eq_ok.mp hi
  obtain ⟨-, hi⟩ := ensure_bind_eq_ok.mp hi
  rw [← Except.pure_eq_ok.mp hi]

/-- **The creation of a collection.** -/
theorem confined_createCollectionProgram {config : CollectionServiceConfig}
    {route : CollectionRoute} {input : CreateCollectionInput} {newId : Uuid} {now : Timestamp}
    (hprincipal : input.principalSub = some sub) (hsub : trimText sub = d)
    (hid : h.collection newId = d) :
    OwnerConfined h d (fun _ => True)
      (Api.createCollectionProgram keccak256 config route input newId now) := by
  refine confined_bind (confined_compute normalizeCreateCollectionInput_ok) (fun input' hinput => ?_)
  rw [hprincipal] at hinput
  refine confined_bind (P := fun view => ∀ o, view = some o → o.HeldBy h d)
    (confined_adapt (confined_fetch (fun _ ht => ?_) (fun _ ht view hview o ho => ?_)))
    (fun view hview => ?_)
  · rw [hinput]
    exact getOrderView_only ht hsub
  · rw [hinput, ho] at hview
    exact heldBy_of_getOrderView ht hview hsub
  refine confined_bind (confined_compute (orError_ok hview)) (fun o ho => ?_)
  refine confined_compute_bind (fun _ => ?_)
  have hcommand : (createCollectionCommand keccak256 config route input' newId o).HeldBy h d :=
    ⟨ho.ownerSub, hid, ho.id, ho.account⟩
  refine confined_bind (P := fun _ => True)
    (confined_adapt (confined_transaction (fun _ ht => createCollectionTx_only ht hcommand)
      (fun _ _ _ ht hcreate => ?_))) (fun _ _ => confined_ok trivial)
  obtain ⟨hkeeps, hothers⟩ := createCollectionTx_leaves ht hcommand hcreate
  exact ⟨hkeeps, hothers, trivial⟩

end Services

/-! ## Requests -/

/-- **What a call draws and is given is its owner's.** -/
def Api.ApiCall.HeldBy (h : Holders) (d : String) : Api.ApiCall → Prop
  | .createOrder _ world => world.HeldBy h d
  | .createCollection _ newId _ => h.collection newId = d
  | _ => True

section Handlers

variable {keccak256 : List UInt8 → BitVec 256} {ryu : BitVec 64 → String}
  {parseUuid : String → Option Uuid} {formatTimestamp : Timestamp → String} {config : Api.ApiConfig}
  {principal : Principal}

/-- The response for an order of the owner. -/
theorem confined_answerOrder {status : ℕ} {view : OrderView} {sub : String}
    (hsub : trimText sub = d) :
    OwnerConfined h d (fun _ => True)
      (Api.answerOrder formatTimestamp config status sub view) := by
  refine confined_bind (P := fun _ => True) (confined_bind (confined_adapt
    (confined_getOrderPaymentDiagnosticsForOwner hsub _)) (fun _ _ => confined_ok trivial))
    (fun _ _ => confined_ok trivial)

theorem confined_answerFound {view : Option OrderView} {sub : String} (hsub : trimText sub = d) :
    OwnerConfined h d (fun _ => True) (Api.answerFound formatTimestamp config sub view) :=
  confined_bind (confined_compute (fun _ _ => trivial))
    (fun _ (_ : True) => confined_answerOrder hsub)

theorem confined_createOrder {payload : Except String Api.CreateOrderRequest}
    {world : Api.CreateOrderWorld} (hsub : trimText principal.subject = d)
    (hworld : world.HeldBy h d) :
    OwnerConfined h d (fun _ => True)
      (Api.createOrder keccak256 ryu formatTimestamp config principal payload world) := by
  refine confined_compute_bind (fun _ => ?_)
  refine confined_compute_bind (fun payload => ?_)
  refine confined_compute_bind (fun amount => ?_)
  refine confined_compute_bind (fun metadata => ?_)
  exact confined_bind (confined_adapt (confined_createOrderForOwner hsub hworld))
    (fun _ _ => confined_answerOrder hsub)

theorem confined_getOrder {id : String} (hsub : trimText principal.subject = d) :
    OwnerConfined h d (fun _ => True)
      (Api.getOrder parseUuid formatTimestamp config principal id) := by
  refine confined_compute_bind (fun _ => ?_)
  refine confined_compute_bind (fun id => ?_)
  exact confined_bind (confined_adapt (confined_getOrderForOwner hsub))
    (fun _ _ => confined_answerFound hsub)

theorem confined_getOrderByExternalId {externalId : String}
    (hsub : trimText principal.subject = d) :
    OwnerConfined h d (fun _ => True)
      (Api.getOrderByExternalId formatTimestamp config principal externalId) := by
  refine confined_compute_bind (fun _ => ?_)
  exact confined_bind (confined_adapt (confined_getOrderByExternalIdForOwner hsub))
    (fun _ _ => confined_answerFound hsub)

theorem confined_acceptProblemPaymentHandler {id : String}
    {payload : Except String (Option String)} {now : Timestamp}
    (hsub : trimText principal.subject = d) :
    OwnerConfined h d (fun _ => True) (Api.acceptProblemPaymentHandler parseUuid formatTimestamp
      config principal id payload now) := by
  refine confined_compute_bind (fun _ => ?_)
  refine confined_compute_bind (fun id => ?_)
  refine confined_compute_bind (fun reason => ?_)
  exact confined_bind (confined_adapt (confined_acceptProblemPayment hsub now _ reason))
    (fun _ _ => confined_answerFound hsub)

theorem confined_createCollectionHandler {payload : Except String Api.CreateCollectionRequest}
    {newId : Uuid} {now : Timestamp} (hsub : trimText principal.subject = d)
    (hid : h.collection newId = d) :
    OwnerConfined h d (fun _ => True) (Api.createCollectionHandler keccak256 parseUuid
      formatTimestamp config principal payload newId now) := by
  refine confined_compute_bind (fun _ => ?_)
  refine confined_compute_bind (fun payload => ?_)
  refine confined_compute_bind (fun orderId => ?_)
  refine confined_compute_bind (fun amount => ?_)
  exact confined_bind (confined_adapt (confined_createCollectionProgram rfl hsub hid))
    (fun _ _ => confined_ok trivial)

theorem confined_getCollection {id : String} (hsub : trimText principal.subject = d) :
    OwnerConfined h d (fun _ => True)
      (Api.getCollection parseUuid formatTimestamp principal id) := by
  refine confined_compute_bind (fun _ => ?_)
  refine confined_compute_bind (fun id => ?_)
  refine confined_bind (confined_adapt (confined_getCollectionForOwner hsub)) (fun c _ => ?_)
  exact confined_bind (confined_compute (fun _ _ => trivial))
    (fun _ (_ : True) => confined_ok trivial)

/-- **Every handler is confined to the owner of its principal.** -/
theorem confined_handleRequest {request : Api.ApiRequest}
    (hsub : trimText request.principal.subject = d) (hcall : request.call.HeldBy h d) :
    OwnerConfined h d (fun _ => True)
      (Api.handleRequest keccak256 ryu parseUuid formatTimestamp config request) := by
  obtain ⟨principal, call⟩ := request
  cases call with
  | createOrder payload world => exact confined_createOrder hsub hcall
  | getOrder id => exact confined_getOrder hsub
  | getOrderByExternalId externalId => exact confined_getOrderByExternalId hsub
  | acceptProblemPayment id payload now => exact confined_acceptProblemPaymentHandler hsub
  | createCollection payload newId now => exact confined_createCollectionHandler hsub hcall
  | getCollection id => exact confined_getCollection hsub

end Handlers

/-! ## Runs -/

namespace Api

/-- The events of the API: a request of an owner comes, or goes on. -/
abbrev ApiEvent := ServedEvent String ApiRequest

/-- A request comes for the owner its principal names, with what is that owner's. -/
def ComesForOwner (h : Holders) : ApiEvent → Prop
  | .request d _ r => trimText r.principal.subject = d ∧ r.call.HeldBy h d
  | .goOn _ _ => True

/-- The database when no request runs. -/
def atRest (db : LedgerDb) : Served LedgerDb String (Except ApiError ApiResponse) :=
  ⟨db, fun _ _ => none⟩

section Runs

variable (keccak256 : List UInt8 → BitVec 256) (ryu : BitVec 64 → String)
  (parseUuid : String → Option Uuid) (formatTimestamp : Timestamp → String) (config : ApiConfig)

/-- The program of a request. -/
def program (r : ApiRequest) : Program LedgerDb (Except ApiError ApiResponse) :=
  (handleRequest keccak256 ryu parseUuid formatTimestamp config r).run

/-- The answers an owner is given in a run from a database. -/
def answers (db : LedgerDb) (owner : String) (es : List ApiEvent) :
    List (Option (Except ApiError ApiResponse)) :=
  (atRest db).results (program keccak256 ryu parseUuid formatTimestamp config) owner es

/-- The database after a run. -/
def afterRun (db : LedgerDb) (es : List ApiEvent) : LedgerDb :=
  ((atRest db).after (program keccak256 ryu parseUuid formatTimestamp config) es).state

/-- The database at rest is confined. -/
theorem atRest_confined {h : Holders} {db : LedgerDb} (ht : db.Tenanted h) :
    (atRest db).Confined (LedgerDb.only h) (LedgerDb.Tenanted h) :=
  ⟨ht, nofun⟩

/-- An owner alone when no request runs. -/
theorem atRest_alone (h : Holders) (db : LedgerDb) (owner : String) :
    (atRest db).alone (LedgerDb.only h) owner = atRest (db.only h owner) :=
  congrArg (Served.mk _) (Function.update_eq_self owner (fun _ _ => none))

/-- **Owners are isolated from each other.** In every run of API requests, with
any interleaving of their statements, an owner is given the answers that its own
requests alone get on its own part of the database, and its part of the database
is what they leave there; and the rows still have identifiers of their owners. -/
theorem answers_alone {h : Holders} {db : LedgerDb} (ht : db.Tenanted h) {es : List ApiEvent}
    (hes : ∀ e ∈ es, ComesForOwner h e) (owner : String) :
    answers keccak256 ryu parseUuid formatTimestamp config db owner es
        = answers keccak256 ryu parseUuid formatTimestamp config (db.only h owner) owner
          (es.filter (fun e => decide (e.domain = owner)))
      ∧ (afterRun keccak256 ryu parseUuid formatTimestamp config db es).only h owner
        = afterRun keccak256 ryu parseUuid formatTimestamp config (db.only h owner)
          (es.filter (fun e => decide (e.domain = owner)))
      ∧ (afterRun keccak256 ryu parseUuid formatTimestamp config db es).Tenanted h := by
  have hcomes : ∀ e ∈ es, Served.Comes (LedgerDb.only h) (LedgerDb.Tenanted h)
      (program keccak256 ryu parseUuid formatTimestamp config) e := by
    intro e he
    cases e with
    | request d i r =>
      obtain ⟨hsub, hcall⟩ := hes _ he
      exact Program.Confined.mono (confined_handleRequest hsub hcall).run (fun _ _ => trivial)
    | goOn d i => exact trivial
  obtain ⟨hresults, hafter⟩ := Served.results_alone (atRest_confined ht) hcomes owner
  rw [atRest_alone] at hresults hafter
  exact ⟨hresults, congrArg Served.state hafter, ((atRest_confined ht).after hcomes).state⟩

end Runs

end Api

/-! ### Two owners -/

namespace TwoOwners

open Api

theorem token_ne_zero : (4 : EvmAddress) ≠ 0 := by decide

theorem treasury_ne_zero : (0x7e : EvmAddress) ≠ 0 := by decide

theorem problemFunds_ne_zero : (0x9f : EvmAddress) ≠ 0 := by decide

theorem problemFunds_ne_treasury : (0x9f : EvmAddress) ≠ 0x7e := by decide

/-- One token on one chain. -/
def config : ApiConfig where
  orders := ⟨1, 4, 3600⟩
  response := ⟨6, "USDT", 0x9f⟩
  collections := ⟨1, 4, 0x7e, 0x9f, Nat.one_pos, token_ne_zero, treasury_ne_zero,
    problemFunds_ne_zero, problemFunds_ne_treasury⟩

/-- Nothing is stored. -/
def emptyDb : LedgerDb where
  payment := ⟨[], [], [], [], []⟩
  orderKeys := []
  collector := ⟨[], [], [], [], [], [(1, 4, 0x7e)], []⟩
  orders_eq := rfl

/-- What alice draws is below 8, and the rest is bob's. -/
def holders : Holders :=
  let holder (n : ℕ) := if n < 8 then "alice" else "bob"
  ⟨fun id => holder id.toNat, fun id => holder id.toNat, fun address => holder address.toNat,
    fun _ _ segment => holder segment.addressIndex, fun id => holder id.toNat,
    fun id => holder id.toNat⟩

/-- A segment of the first account. -/
def segment (index : ℕ) (h : index ≤ maxDerivationIndex) : DerivationSegment :=
  ⟨0, 0, index, by decide, by decide, h⟩

/-- What the creation of an owner is given: the identifiers are drawn from one on. -/
def world (id : Uuid) (address : EvmAddress) (segment : DerivationSegment) : CreateOrderWorld where
  head := .ok ⟨10, 0⟩
  allocated := .ok ⟨"main", 1, segment, segment.derivationPath⟩
  deriver _ _ := .ok address
  now := 0
  ids := ⟨id, id + 1, id + 2⟩

/-- A principal that may do everything with orders. -/
def principal (subject : String) : Principal :=
  ⟨subject, "issuer", ["pay3"], ScopeSet.empty.extend ["orders:create", "orders:read"]⟩

/-- The request of an owner for an order of one token, under one external id. -/
def creation (subject : String) (id : Uuid) (address : EvmAddress) (segment : DerivationSegment) :
    ApiRequest :=
  ⟨principal subject, .createOrder (.ok ⟨"A-1", "1", 600, none⟩) (world id address segment)⟩

/-- The requests of both owners go on in turn. -/
def turns (count : ℕ) : List ApiEvent :=
  (List.replicate count [ServedEvent.goOn "alice" 0, .goOn "bob" 0]).flatten

/-- Both owners create an order under the same external id, and bob asks for the
order of alice. -/
def requests : List ApiEvent :=
  [.request "alice" 0 (creation "alice" 1 7 (segment 7 (by decide))),
    .request "bob" 0 (creation "bob" 11 17 (segment 17 (by decide))),
    .request "bob" 1 ⟨principal "bob", .getOrder "00000000-0000-0000-0000-000000000001"⟩]

/-- The requests go on a statement at a time. -/
def events : List ApiEvent :=
  requests ++ turns 4 ++ [.goOn "bob" 1, .goOn "bob" 1] ++ turns 5

theorem emptyDb_tenanted : emptyDb.Tenanted holders :=
  ⟨List.forall_mem_nil _, List.forall_mem_nil _, List.forall_mem_nil _, List.forall_mem_nil _,
    by decide⟩

/-- The identifiers of a creation are of the owner all of them were drawn for. -/
theorem world_heldBy {id : Uuid} {address : EvmAddress} {segment : DerivationSegment} {d : String}
    (hids : holders.order id = d ∧ holders.account (id + 1) = d ∧ holders.window (id + 2) = d)
    (haddress : holders.address address = d) (hsegment : holders.segment "main" 1 segment = d) :
    (world id address segment).HeldBy holders d := by
  refine ⟨hids.1, hids.2.1, hids.2.2, fun allocated derived hallocated hderived => ?_⟩
  obtain rfl := Except.ok.inj hallocated
  unfold deriveAddress at hderived
  obtain ⟨request, hrequest, hderived⟩ := Except.bind_eq_ok.mp hderived
  obtain ⟨derived', hchild, hderived⟩ := Except.bind_eq_ok.mp hderived
  obtain ⟨-, hderived⟩ := ensure_bind_eq_ok.mp hderived
  obtain rfl := Except.ok.inj hderived
  have hat := deriveChildAddress_eq_ok (Except.mapError_eq_ok.mp hrequest)
    (Except.mapError_eq_ok.mp hchild)
  have haddr : derived'.address = address := by
    rw [← Except.ok.inj (Except.mapError_eq_ok.mp hchild)]
  rw [haddr, hat.segment]
  exact ⟨haddress, hsegment⟩

theorem turns_come (count : ℕ) : ∀ e ∈ turns count, ComesForOwner holders e := by
  intro e he
  obtain ⟨l, hl, he⟩ := List.mem_flatten.mp he
  obtain ⟨-, rfl⟩ := List.mem_replicate.mp hl
  obtain rfl | he := List.mem_cons.mp he
  · exact trivial
  · obtain rfl := List.mem_singleton.mp he
    exact trivial

theorem creation_comes {subject : String} {id : Uuid} {address : EvmAddress}
    {segment : DerivationSegment} {i : ℕ} (hsub : trimText subject = subject)
    (hworld : (world id address segment).HeldBy holders subject) :
    ComesForOwner holders (.request subject i (creation subject id address segment)) :=
  ⟨hsub, hworld⟩

theorem read_comes {subject id : String} {i : ℕ} (hsub : trimText subject = subject) :
    ComesForOwner holders (.request subject i ⟨principal subject, .getOrder id⟩) :=
  ⟨hsub, trivial⟩

theorem events_come : ∀ e ∈ events, ComesForOwner holders e := by
  have halice : trimText "alice" = "alice" := by decide
  have hbob : trimText "bob" = "bob" := by decide
  have hrequests : ∀ e ∈ requests, ComesForOwner holders e := by
    refine List.forall_mem_cons.mpr ⟨creation_comes halice ?_,
      List.forall_mem_cons.mpr ⟨creation_comes hbob ?_,
        List.forall_mem_cons.mpr ⟨read_comes hbob, List.forall_mem_nil _⟩⟩⟩
    · exact world_heldBy (by decide) (by decide) (by decide)
    · exact world_heldBy (by decide) (by decide) (by decide)
  have hreads : ∀ e ∈ [ServedEvent.goOn "bob" 1, .goOn "bob" 1], ComesForOwner holders e :=
    List.forall_mem_cons.mpr ⟨trivial, List.forall_mem_cons.mpr ⟨trivial, List.forall_mem_nil _⟩⟩
  intro e he
  obtain he | he := List.mem_append.mp he
  · obtain he | he := List.mem_append.mp he
    · obtain he | he := List.mem_append.mp he
      · exact hrequests e he
      · exact turns_come 4 e he
    · exact hreads e he
  · exact turns_come 5 e he

/-- `keccak256` of the request both owners make. -/
def hashOfRequest : BitVec 256 :=
  0x3fe80e6285c3a83f09681b5c3fe20b27f14d21ed1388fd80454eaded08462620

/-- The identifier bob asks for. -/
def uuidOf (text : String) : Option Uuid :=
  if text = "00000000-0000-0000-0000-000000000001" then some 1 else none

/-- The times of an order made at 0. -/
def timeText (t : Timestamp) : String :=
  if t = seconds 600 then "1970-01-01T00:10:00Z" else "1970-01-01T01:10:00Z"

/-- The answers of an owner in this run, from a database. `keccak256` is its value on
the one request that is hashed, and the times are those of an order made at 0. -/
def answersFrom (db : LedgerDb) (owner : String) (es : List ApiEvent) :
    List (Option (Except ApiError ApiResponse)) :=
  answers (fun _ => hashOfRequest) (fun _ => "") uuidOf timeText config db owner es

/-- The status of an answer. -/
def status : Except ApiError ApiResponse → ℕ
  | .error e => e.status
  | .ok (.order status _) | .ok (.collection status _) => status

/-- Bob is answered as if alice was not there: no such order, and an order of its own. -/
theorem answers_alone_two :
    answersFrom emptyDb "bob" events
        = answersFrom (emptyDb.only holders "bob") "bob"
          (events.filter (fun e => decide (e.domain = "bob")))
      ∧ (afterRun (fun _ => hashOfRequest) (fun _ => "") uuidOf timeText config emptyDb
          events).only holders "bob"
        = afterRun (fun _ => hashOfRequest) (fun _ => "") uuidOf timeText config
          (emptyDb.only holders "bob") (events.filter (fun e => decide (e.domain = "bob")))
      ∧ (afterRun (fun _ => hashOfRequest) (fun _ => "") uuidOf timeText config emptyDb
          events).Tenanted holders
      ∧ ((answersFrom emptyDb "bob" events).filterMap id).map status = [404, 201] := by
  obtain ⟨hanswers, hpart, htenanted⟩ := answers_alone (fun _ => hashOfRequest) (fun _ => "") uuidOf
    timeText config emptyDb_tenanted events_come "bob"
  exact ⟨hanswers, hpart, htenanted, by decide⟩

end TwoOwners
