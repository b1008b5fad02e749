import Pay3.CanonicalRequests
import Pay3.CollectionReplay

/-!
# The collection a request is answered with

A request for a collection names an order, a route and perhaps an amount. Of the
ways `create_collection_idempotent` can return a row, two compare the request
with the one the row was created for: a new row is made from the request, and a
row under the same key is returned only under the same hash. The third way does
not: when the key is new and the child account has an active collection, that
collection is returned, whichever route and amount it was created for.

So an answer is what was asked for exactly when it is not the active collection
of another request that goes elsewhere or moves another amount. That the hash
stands for the request needs that no two requests of the run collide.
-/

/-- **The collection is what the request asks for**: of its order, to the
destination of its route and, if an amount was named, of that amount. -/
structure CollectionRecord.Serves (c : CollectionRecord) (config : CollectionServiceConfig)
    (route : CollectionRoute) (input : CreateCollectionInput) : Prop where
  order : c.orderId = input.orderId
  destination : c.toAddress = route.toAddress config
  amount : ∀ a, input.amount = .exact a → c.amountRaw = some a

/-- **The answer of a request**: a collection that serves it, for the owner of the
order, who is the principal if there is one. -/
structure LedgerDb.Answer (db : LedgerDb) (config : CollectionServiceConfig)
    (route : CollectionRoute) (input : CreateCollectionInput) (c : CollectionRecord) : Prop
    extends c.Serves config route input where
  owner : ∃ o ∈ db.payment.orders, o.id = input.orderId ∧ c.ownerSub = o.ownerSub
  principal : ∀ sub, input.principalSub = some sub → c.ownerSub = sub

/-- **Another collection is in the way**: nothing is stored under the request's
key, and the child account of the order has an active collection to another
destination or of another amount. -/
def LedgerDb.OtherActive (db : LedgerDb) (config : CollectionServiceConfig)
    (route : CollectionRoute) (input : CreateCollectionInput) : Prop :=
  ∃ o ∈ db.payment.orders, o.id = input.orderId
    ∧ db.collector.keyed? o.ownerSub (trimText input.idempotencyKey) = none
    ∧ ∃ d ∈ db.collector.collections, d.childAccountId = o.childAccountId
      ∧ d.status.isActive = true
      ∧ ¬ (d.toAddress = route.toAddress config ∧ ∀ a, input.amount = .exact a →
        d.amountRaw = some a)

/-- Whether a row has the amount that was asked for is decidable. -/
instance CollectionAmount.decidableMet (amount : CollectionAmount) (raw : Option RawAmount) :
    Decidable (∀ a, amount = .exact a → raw = some a) :=
  match amount with
  | .max => .isTrue (fun _ h => nomatch h)
  | .exact b => decidable_of_iff (raw = some b)
      ⟨fun h _ ha => (CollectionAmount.exact.inj ha) ▸ h, fun h => h b rfl⟩

instance (db : LedgerDb) (config : CollectionServiceConfig) (route : CollectionRoute)
    (input : CreateCollectionInput) : Decidable (db.OtherActive config route input) :=
  inferInstanceAs (Decidable (∃ o ∈ db.payment.orders, _ ∧ _ ∧
    ∃ d ∈ db.collector.collections, _ ∧ _ ∧ ¬ (_ ∧ _)))

/-- The request with its key trimmed, as it is hashed. -/
def CreateCollectionInput.trimmed (input : CreateCollectionInput) : CreateCollectionInput :=
  { input with idempotencyKey := trimText input.idempotencyKey }

/-- The bytes the hash of a request is taken of. -/
def requestBytes (config : CollectionServiceConfig) (route : CollectionRoute)
    (input : CreateCollectionInput) : List UInt8 :=
  (canonicalRequest input.trimmed config route).toUTF8.data.toList

/-- **No collision**: a request that an action makes and that has the hash of the
given one is the same request. -/
def NoCollision (keccak256 : List UInt8 → BitVec 256) (config : CollectionServiceConfig)
    (route : CollectionRoute) (input : CreateCollectionInput) (s : LedgerSystem)
    (a : Timestamp × LedgerAction) : Prop :=
  match s.request? a.2 with
  | none => True
  | some (route', input', _, _) =>
    keccak256 (requestBytes config route' input') = keccak256 (requestBytes config route input) →
      requestBytes config route' input' = requestBytes config route input

instance (keccak256 : List UInt8 → BitVec 256) (config : CollectionServiceConfig)
    (route : CollectionRoute) (input : CreateCollectionInput) (s : LedgerSystem)
    (a : Timestamp × LedgerAction) : Decidable (NoCollision keccak256 config route input s a) :=
  match h : s.request? a.2 with
  | none => .isTrue (by unfold NoCollision; rw [h]; trivial)
  | some (route', input', _, _) =>
    decidable_of_iff
      (keccak256 (requestBytes config route' input') = keccak256 (requestBytes config route input) →
        requestBytes config route' input' = requestBytes config route input)
      (by unfold NoCollision; rw [h])

/-! ## The hash of a row stands for its request -/

/-- The text of a request is determined by its bytes. -/
theorem canonicalRequest_of_requestBytes {config : CollectionServiceConfig}
    {route route' : CollectionRoute} {input input' : CreateCollectionInput}
    (h : requestBytes config route' input' = requestBytes config route input) :
    canonicalRequest input'.trimmed config route' = canonicalRequest input.trimmed config route := by
  have hbytes : (canonicalRequest input'.trimmed config route').toUTF8
      = (canonicalRequest input.trimmed config route).toUTF8 :=
    ByteArray.ext (Array.toList_inj.mp h)
  exact String.toByteArray_inj.mp hbytes

/-- The hash a command is stored under. -/
theorem requestHash_createCollectionCommand (keccak256 : List UInt8 → BitVec 256)
    (config : CollectionServiceConfig) (route : CollectionRoute) (input : CreateCollectionInput)
    (id : Uuid) (o : OrderRecord) :
    (createCollectionCommand keccak256 config route
        { input with idempotencyKey := trimText input.idempotencyKey } id o).requestHash
      = canonicalCollectionRequestHash keccak256 input.trimmed config route := by
  unfold CreateCollectionInput.trimmed
  rfl

/-- Two requests with one hash string have one hash. -/
theorem keccak256_of_requestHash {keccak256 : List UInt8 → BitVec 256}
    {config : CollectionServiceConfig} {route route' : CollectionRoute}
    {input input' : CreateCollectionInput}
    (h : canonicalCollectionRequestHash keccak256 input'.trimmed config route'
      = canonicalCollectionRequestHash keccak256 input.trimmed config route) :
    keccak256 (requestBytes config route' input') = keccak256 (requestBytes config route input) := by
  have hlist := congrArg String.toList h
  unfold canonicalCollectionRequestHash at hlist
  simp only [String.toList_append, String.toList_ofList] at hlist
  exact hexDigits_toNat_injective (by decide) (List.append_cancel_left hlist)

namespace CollectionRecord.Serves

variable {config : CollectionServiceConfig} {route : CollectionRoute}
  {input : CreateCollectionInput} {c c' : CollectionRecord}

/-- A call of the collector keeps it: an amount that is there is kept. -/
theorem moves (h : c.Serves config route input) {call : CollectionCall} (hm : c.Moves call c') :
    c'.Serves config route input := by
  have hterms := hm.terms
  simp only [CollectionRecord.terms, CollectionTerms.mk.injEq] at hterms
  refine ⟨hterms.2.2.1.trans h.order, hterms.2.2.2.2.2.2.2.2.2.trans h.destination, fun a ha => ?_⟩
  rcases hm.amount with hamount | ⟨_, _, -, hamount⟩
  · rw [hamount, h.amount a ha]
  · rw [hamount, h.amount a ha]
    rfl

/-- A new row serves the request it is made from. -/
theorem of_newCollection {keccak256 : List UInt8 → BitVec 256} {now : Timestamp} {id : Uuid}
    {o : OrderRecord} (hid : o.id = input.orderId) :
    (CollectorDb.newCollection now (createCollectionCommand keccak256 config route
      input.trimmed id o)).Serves config route input := by
  refine ⟨hid, rfl, fun a ha => ?_⟩
  show input.trimmed.amount.asOptionalRaw = some a
  rw [show input.trimmed.amount = input.amount from rfl, ha]
  rfl

/-- Requests with one canonical text are served by the same rows. -/
theorem of_canonicalRequest {route' : CollectionRoute} {input' : CreateCollectionInput}
    (h : c.Serves config route' input')
    (htext : canonicalRequest input'.trimmed config route'
      = canonicalRequest input.trimmed config route) : c.Serves config route input := by
  obtain ⟨-, horder, hamount, rfl⟩ := canonicalRequest_inj htext
  simp only [CreateCollectionInput.trimmed] at horder hamount
  exact ⟨h.order.trans horder, h.destination, fun a ha => h.amount a (hamount.trans ha)⟩

end CollectionRecord.Serves

namespace LedgerSystem

variable {keccak256 : List UInt8 → BitVec 256} {config : CollectionServiceConfig}
  {route : CollectionRoute} {input : CreateCollectionInput} {s s' : LedgerSystem}

/-- **Every row with the hash of the request serves it.** -/
def HashServes (keccak256 : List UInt8 → BitVec 256) (config : CollectionServiceConfig)
    (route : CollectionRoute) (input : CreateCollectionInput) (db : LedgerDb) : Prop :=
  ∀ c ∈ db.collector.collections,
    c.requestHash = canonicalCollectionRequestHash keccak256 input.trimmed config route →
    c.Serves config route input

/-- **One step** keeps it, unless its request collides. -/
theorem hashServes_of_step {a : Timestamp × LedgerAction} (hinv : LedgerInv s.db s.now)
    (h : HashServes keccak256 config route input s.db)
    (hP : NoCollision keccak256 config route input s a) (hs : step keccak256 config s a = some s') :
    HashServes keccak256 config route input s'.db := by
  obtain ⟨-, -, hchange⟩ := step_eq_some hs
  generalize s'.db = db' at hchange ⊢
  cases hchange with
  | unchanged => exact h
  | createOrder command ha hc => exact h
  | payment op payment ha hop => exact h
  | collection route' input' collectionId command o ha hg =>
    intro c hc hhash
    rcases List.mem_append.mp hc with hc | hc
    · exact h c hc hhash
    · obtain rfl := List.mem_singleton.mp hc
      obtain ⟨⟨route₁, input₁, id₁, s₁⟩, hr, heq⟩ := Option.map_eq_some_iff.mp ha
      simp only [Prod.mk.injEq] at heq
      obtain ⟨rfl, rfl, rfl⟩ := heq
      unfold NoCollision at hP
      rw [hr] at hP
      have hstored : command.requestHash
          = canonicalCollectionRequestHash keccak256 input.trimmed config route := hhash
      rw [hg.command_eq, requestHash_createCollectionCommand] at hstored
      rw [hg.command_eq]
      have hserves : (CollectorDb.newCollection s'.now (createCollectionCommand keccak256 config
          route₁ input₁.trimmed id₁ o)).Serves config route₁ input₁ := .of_newCollection hg.id
      exact hserves.of_canonicalRequest
        (canonicalRequest_of_requestBytes (hP (keccak256_of_requestHash hstored)))
  | collector call collector ha hcall hx =>
    intro c hc hhash
    obtain ⟨d, hd, hmoves⟩ := (movedBy_of_runCall hinv.coherence hcall hx).exists_of_mem hc
    have hsame : c.requestHash = d.requestHash := congrArg CollectionTerms.requestHash hmoves.terms
    exact (h d hd (hsame.symm.trans hhash)).moves hmoves

/-- **A run** keeps it, as long as no request of it collides. -/
theorem hashServes_of_run {run : List (Timestamp × LedgerAction)} (h₀ : Initial s)
    (hP : StepsMeet (step keccak256 config) (NoCollision keccak256 config route input) s run)
    (hr : runSteps (step keccak256 config) s run = some s') :
    HashServes keccak256 config route input s'.db := by
  have hstart : HashServes keccak256 config route input s.db := by
    intro c hc
    rw [h₀.collector.collections] at hc
    exact absurd hc List.not_mem_nil
  exact (inv_of_run
    (I := fun s => LedgerInv s.db s.now ∧ HashServes keccak256 config route input s.db)
    (fun _ _ _ hinv hP hs => ⟨ledgerInv_of_step hinv.1 hs, hashServes_of_step hinv.1 hinv.2 hP hs⟩)
    ⟨h₀.ledgerInv, hstart⟩ hP hr).2

/-- **When a request is answered with what it asked for.** In every reachable
state, the collection a successful request returns is of the requested order and
owner, to the destination of the route and of the amount that was asked for,
exactly when no other active collection of the child account is in the way. -/
theorem answer_iff {s₀ : LedgerSystem} {run : List (Timestamp × LedgerAction)} (h₀ : Initial s₀)
    (hrun : runSteps (step keccak256 config) s₀ run = some s)
    (hcollision : StepsMeet (step keccak256 config) (NoCollision keccak256 config route input) s₀ run)
    {now : Timestamp} {newId : Uuid} {db' : LedgerDb} {outcome : CreateCollectionOutcome}
    {c : CollectionRecord}
    (hcall : createCollectionForRoute keccak256 config s.db now route input newId
      = .ok (db', outcome, c)) :
    s.db.Answer config route input c ↔ ¬ s.db.OtherActive config route input := by
  have hinv := ledgerInv_of_run h₀.ledgerInv hrun
  obtain ⟨o, collector, -, -, hview, -, -, -, hcreate, -, -⟩ :=
    createCollectionForRoute_eq_ok.mp hcall
  obtain ⟨ho, hid, howner, -⟩ := getOrderView_eq_ok hview
  have hsame : ∀ o' ∈ s.db.payment.orders, o'.id = input.orderId → o' = o := fun o' ho' hid' =>
    List.inj_on_of_nodup_map hinv.reflect.ids ho' ho (hid'.trans hid.symm)
  have hanswer : c.ownerSub = o.ownerSub → c.Serves config route input →
      s.db.Answer config route input c := fun hown hserves =>
    { hserves with
      owner := ⟨o, ho, hid, hown⟩
      principal := fun sub hsub => hown.trans (howner sub hsub) }
  obtain ⟨hkeyed, hhash, -⟩ | ⟨hnone, hactive, -⟩ | ⟨-, hinactive, -, -, rfl, -⟩ :=
    CollectorDb.createCollectionIdempotent_eq_ok hcreate
  · -- the row under the key has the hash of the request
    obtain ⟨hmem, hown, -⟩ := CollectorDb.keyed?_eq_some hkeyed
    rw [requestHash_createCollectionCommand] at hhash
    refine iff_of_true (hanswer hown (hashServes_of_run h₀ hcollision hrun c hmem hhash)) ?_
    rintro ⟨o', ho', hid', hnone, -⟩
    rw [hsame o' ho' hid'] at hnone
    exact absurd (hnone.symm.trans hkeyed) nofun
  · -- the active row of the child account is of the order, and of its owner
    obtain ⟨hmem, hsel⟩ := List.mem_filter.mp (mem_of_firstBy hactive)
    simp only [Bool.and_eq_true, decide_eq_true_eq] at hsel
    have hchild : c.childAccountId = o.childAccountId := hsel.1
    obtain ⟨o', ho', hof⟩ := hinv.collections c hmem
    obtain rfl := hinv.order_eq ho' ho (hof.childAccountId.symm.trans hchild)
    constructor
    · rintro hanswered ⟨o'', ho'', hid'', -, d, hd, hdchild, hdactive, hdiffers⟩
      obtain rfl := hsame o'' ho'' hid''
      obtain rfl := hinv.active_unique hd hmem hdactive hsel.2 (hdchild.trans hchild.symm)
      exact hdiffers ⟨hanswered.destination, hanswered.amount⟩
    · intro hclear
      by_contra hnot
      refine hclear ⟨o', ho', hid, hnone, c, hmem, hchild, hsel.2, fun hmeets => hnot ?_⟩
      exact hanswer hof.ownerSub ⟨hof.orderId.trans hid, hmeets.1, hmeets.2⟩
  · -- a new row is made from the request
    refine iff_of_true (hanswer rfl (.of_newCollection hid)) ?_
    rintro ⟨o', ho', hid', -, d, hd, hdchild, hdactive, -⟩
    obtain rfl := hsame o' ho' hid'
    have hselect := hinv.selectActive_eq hd hdactive
    rw [hdchild] at hselect
    exact absurd (hinactive.symm.trans hselect) nofun

end LedgerSystem

namespace OtherDestination

open SmallLedger RepeatedSweep

/-- A caller asks for the problem funds of the order. -/
def problemRequest : CreateCollectionInput := ⟨1, .max, "problem-1", none⟩

/-- The hashes of the requests. -/
def keccak256 : List UInt8 → BitVec 256 :=
  keccakOf [(canonicalRequest request config .treasury,
      0x8469d54bcc2e68833c332ed151c7131cff04f49e09ba1a0144a02dc805bbdf2d),
    (canonicalRequest problemRequest config .problemFunds,
      0x643f2481dee8fb134a9bddf10feabdf91b8deedffb8f2fb41b698af02a58bd8c)]

/-- The order is paid, and a caller asks for it to be swept to the treasury. -/
def sweepAsked : List (Timestamp × LedgerAction) :=
  paidOrder ++ [(10, .createCollection .treasury request 0xd1)]

/-- The one request of the run is all that can collide. -/
theorem noCollision_sweepAsked {route : CollectionRoute} {input : CreateCollectionInput}
    (h : keccak256 (requestBytes config .treasury request)
        = keccak256 (requestBytes config route input) →
      requestBytes config .treasury request = requestBytes config route input) :
    StepsMeet (LedgerSystem.step keccak256 config) (NoCollision keccak256 config route input) start
      sweepAsked := by
  refine stepsMeet_of_forall_mem (fun a ha s => ?_) start
  rcases List.mem_append.mp ha with ha | ha
  · simp only [paidOrder, List.mem_cons, List.not_mem_nil, or_false] at ha
    rcases ha with rfl | rfl <;> trivial
  · rw [List.mem_singleton.mp ha]
    exact h

theorem requestBytes_request : requestBytes config .treasury request
    = (canonicalRequest request config .treasury).toUTF8.data.toList := by
  have htrimmed : request.trimmed = request := by decide +kernel
  rw [requestBytes, htrimmed]

theorem requestBytes_problemRequest : requestBytes config .problemFunds problemRequest
    = (canonicalRequest problemRequest config .problemFunds).toUTF8.data.toList := by
  have htrimmed : problemRequest.trimmed = problemRequest := by decide +kernel
  rw [requestBytes, htrimmed]

/-- The two requests have different hashes. -/
theorem keccak256_ne : keccak256 (requestBytes config .treasury request)
    ≠ keccak256 (requestBytes config .problemFunds problemRequest) := by
  have hbytes : requestBytes config .treasury request
      ≠ requestBytes config .problemFunds problemRequest := by
    intro h
    obtain ⟨-, -, -, hroute⟩ := canonicalRequest_inj (canonicalRequest_of_requestBytes h)
    cases hroute
  rw [requestBytes_request, requestBytes_problemRequest] at hbytes ⊢
  rw [keccak256, keccakOf_cons_self, keccakOf_cons_of_ne hbytes, keccakOf_cons_self]
  decide

end OtherDestination

namespace LedgerSystem

open SmallLedger RepeatedSweep OtherDestination

/-- The same request, sent twice, is answered with the collection it asked for. -/
theorem answer_of_repeated :
    ∃ s db' outcome c, runSteps (step OtherDestination.keccak256 config) start sweepAsked = some s
      ∧ createCollectionForRoute OtherDestination.keccak256 config s.db 11 .treasury request 0xd2
        = .ok (db', outcome, c)
      ∧ c.id = 0xd1 ∧ s.db.Answer config .treasury request c := by
  have hfacts : (runSteps (step OtherDestination.keccak256 config) start sweepAsked).map (fun s =>
      ((createCollectionForRoute OtherDestination.keccak256 config s.db 11 .treasury request
          0xd2).toOption.map (fun r => r.2.2.id),
        decide (s.db.OtherActive config .treasury request))) = some (some 0xd1, false) := by
    decide +kernel
  obtain ⟨s, hs, hfacts⟩ := Option.map_eq_some_iff.mp hfacts
  obtain ⟨hreturned, hclear⟩ := Prod.mk.inj hfacts
  obtain ⟨⟨db', outcome, c⟩, hr, hid⟩ := Option.map_eq_some_iff.mp hreturned
  have hcall := Except.toOption_eq_some.mp hr
  exact ⟨s, db', outcome, c, hs, hcall, hid,
    (answer_iff start_initial hs (noCollision_sweepAsked (fun _ => rfl)) hcall).mpr
      (of_decide_eq_false hclear)⟩

/-- **A request for problem funds is answered with a sweep to the treasury**, which
was active at that moment. -/
theorem answer_fails :
    start.Initial ∧ ∃ s db' outcome c,
      runSteps (step OtherDestination.keccak256 config) start sweepAsked = some s
      ∧ StepsMeet (step OtherDestination.keccak256 config)
        (NoCollision OtherDestination.keccak256 config .problemFunds problemRequest) start sweepAsked
      ∧ createProblemFundsCollection OtherDestination.keccak256 config s.db 11 problemRequest 0xd2
        = .ok (db', outcome, c)
      ∧ config.problemFundsAddress = 0x9f ∧ c.toAddress = 0x7e
      ∧ ¬ s.db.Answer config .problemFunds problemRequest c := by
  have hfacts : (runSteps (step OtherDestination.keccak256 config) start sweepAsked).map (fun s =>
      (createProblemFundsCollection OtherDestination.keccak256 config s.db 11 problemRequest
        0xd2).toOption.map (fun r => r.2.2.toAddress)) = some (some 0x7e) := by
    decide +kernel
  obtain ⟨s, hs, hreturned⟩ := Option.map_eq_some_iff.mp hfacts
  obtain ⟨⟨db', outcome, c⟩, hr, hto⟩ := Option.map_eq_some_iff.mp hreturned
  refine ⟨start_initial, s, db', outcome, c, hs,
    noCollision_sweepAsked (fun h => absurd h keccak256_ne), Except.toOption_eq_some.mp hr, rfl,
    hto, fun hanswer => ?_⟩
  have hdestination : c.toAddress = 0x9f := hanswer.destination
  exact absurd (hto.symm.trans hdestination) (by decide)

end LedgerSystem
