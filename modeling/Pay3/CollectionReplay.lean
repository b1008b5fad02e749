import Pay3.LedgerInvariant

/-!
# Asking for the same collection again

A caller that does not hear the answer to a request sends it again, with the
same idempotency key. The reply is meant to be the collection the first call
returned. It is, as long as two things hold at the time of the second call:
the order is still in a status the route accepts, for the status is checked
before the key is looked up; and the collection is stored under the key, or
nothing is and the collection is still active, for a request that found the
child account busy was answered with the active collection and left no trace
of its own key.

Both conditions are about the state at the second call alone, and together
they say exactly when it returns the same collection.
-/

/-- **A call returns the collection** with a given identifier. -/
def Returns (keccak256 : List UInt8 → BitVec 256) (config : CollectionServiceConfig)
    (db : LedgerDb) (now : Timestamp) (route : CollectionRoute) (input : CreateCollectionInput)
    (newId id : Uuid) : Prop :=
  ∃ db' outcome c, createCollectionForRoute keccak256 config db now route input newId
    = .ok (db', outcome, c) ∧ c.id = id

/-- **A request is answered with a collection already there**: the order can be
read and is in a status its route accepts, and the collection is stored under
the request's key, or nothing is and the collection is active. -/
def Replayable (db : LedgerDb) (route : CollectionRoute) (input : CreateCollectionInput)
    (id : Uuid) : Prop :=
  ∃ o ∈ db.payment.orders, o.id = input.orderId ∧ route.accepts o.status = true
    ∧ o.paidAmountRaw < 2 ^ 256
    ∧ ((db.collector.keyed? o.ownerSub (trimText input.idempotencyKey)).map CollectionRecord.id
        = some id
      ∨ (db.collector.keyed? o.ownerSub (trimText input.idempotencyKey) = none
        ∧ ∃ c ∈ db.collector.collections, c.id = id ∧ c.status.isActive = true))

instance (db : LedgerDb) (route : CollectionRoute) (input : CreateCollectionInput) (id : Uuid) :
    Decidable (Replayable db route input id) :=
  inferInstanceAs (Decidable (∃ o ∈ db.payment.orders, _ ∧ _ ∧ _ ∧ (_ ∨ (_ ∧
    ∃ c ∈ db.collector.collections, _ ∧ _))))

namespace LedgerInv

variable {db : LedgerDb} {now : Timestamp}

/-- An order that can be read is the one its view shows. -/
theorem getOrderView_eq (h : LedgerInv db now) {o : OrderRecord} (ho : o ∈ db.payment.orders)
    {ownerSub : Option String} (howner : ∀ owner, ownerSub = some owner → o.ownerSub = owner)
    (hpaid : o.paidAmountRaw < 2 ^ 256) : getOrderView db o.id ownerSub = .ok (some o) := by
  obtain ⟨a, ha, haid⟩ := h.accounts o ho
  obtain ⟨w, hw, hwo⟩ := h.windows o ho
  have hfind : db.payment.orders.find? (fun q => decide (q.id = o.id)
      && ownerSub.all (fun owner => decide (q.ownerSub = owner))
      && db.collector.childAccounts.any (fun a => decide (a.id = q.childAccountId))
      && db.payment.windows.any (fun w => decide (w.orderId = q.id))) = some o := by
    have hbyId : db.payment.orders.find? (fun q => decide (q.id = o.id)) = some o :=
      find?_eq_some_of_mem h.reflect.ids ho
    obtain ⟨-, pre, post, hsplit, hnot⟩ := List.find?_eq_some_iff_append.mp hbyId
    refine List.find?_eq_some_iff_append.mpr ⟨?_, pre, post, hsplit, fun q hq => ?_⟩
    · have hown : ownerSub.all (fun owner => decide (o.ownerSub = owner)) = true := by
        cases ownerSub with
        | none => rfl
        | some owner => exact decide_eq_true (howner owner rfl)
      have hacc : db.collector.childAccounts.any (fun a => decide (a.id = o.childAccountId))
          = true := List.any_eq_true.mpr ⟨a, ha, decide_eq_true haid⟩
      have hwin : db.payment.windows.any (fun w => decide (w.orderId = o.id)) = true :=
        List.any_eq_true.mpr ⟨w, hw, decide_eq_true hwo⟩
      rw [hown, hacc, hwin, decide_eq_true rfl]
      rfl
    · have hne := hnot q hq
      simp only [Bool.not_eq_eq_eq_not, Bool.not_true] at hne ⊢
      rw [hne, Bool.false_and, Bool.false_and, Bool.false_and]
  unfold getOrderView
  rw [hfind]
  refine Except.map_eq_ok.mpr ⟨o, ?_, rfl⟩
  unfold rowToOrderRecord bigDecimalToRawAmount
  rw [if_pos hpaid]
  rfl

/-- An active collection is in a status the index covers. -/
theorem isIndexedActive (h : LedgerInv db now) {c : CollectionRecord}
    (hc : c ∈ db.collector.collections) (hactive : c.status.isActive = true) :
    c.status.isIndexedActive = true := by
  rcases (h.coherence.linked c hc).active_or_terminal with hidx | hterm
  · exact hidx
  · -- no status is both active and final
    cases hs : c.status with
    | confirmed => rw [hs] at hactive; cases hactive
    | failed => rw [hs] at hactive; cases hactive
    | queued => rfl
    | transferring => rfl
    | confirming => rfl
    | dropped => rw [hs] at hterm; cases hterm
    | replacing => rw [hs] at hterm; cases hterm
    | replaced => rw [hs] at hterm; cases hterm

/-- **A child account has one active collection at most.** -/
theorem active_unique (h : LedgerInv db now) {c d : CollectionRecord}
    (hc : c ∈ db.collector.collections) (hd : d ∈ db.collector.collections)
    (hca : c.status.isActive = true) (hda : d.status.isActive = true)
    (hchild : c.childAccountId = d.childAccountId) : c = d := by
  by_contra hne
  have hpair := of_decide_eq_true h.coherence.active
  have hsymm : Std.Symm (fun a b : CollectionRecord => ¬ (a.status.isIndexedActive = true
      ∧ b.status.isIndexedActive = true ∧ a.childAccountId = b.childAccountId)) :=
    ⟨fun a b hab hba => hab ⟨hba.2.1, hba.1, hba.2.2.symm⟩⟩
  exact hpair.forall hc hd hne ⟨h.isIndexedActive hc hca, h.isIndexedActive hd hda, hchild⟩

/-- The active collection of a child account is the one a lookup returns. -/
theorem selectActive_eq (h : LedgerInv db now) {c : CollectionRecord}
    (hc : c ∈ db.collector.collections) (hactive : c.status.isActive = true) :
    db.collector.selectActiveCollectionByChildAccount c.childAccountId = some c := by
  have hmem : c ∈ db.collector.collections.filter
      (fun d => decide (d.childAccountId = c.childAccountId) && d.status.isActive) :=
    List.mem_filter.mpr ⟨hc, by simp [hactive]⟩
  obtain ⟨d, hd⟩ : ∃ d, db.collector.selectActiveCollectionByChildAccount c.childAccountId
      = some d := firstBy_isSome hmem
  obtain ⟨hdmem, hdsel⟩ := List.mem_filter.mp (mem_of_firstBy hd)
  simp only [Bool.and_eq_true, decide_eq_true_eq] at hdsel
  rw [hd, h.active_unique hdmem hc hdsel.2 hactive hdsel.1]

/-- Two collections with one identifier have one set of terms. -/
theorem terms_eq (h : LedgerInv db now) {c d : CollectionRecord}
    (hc : c ∈ db.collector.collections) (hd : d ∈ db.collector.collections) (hid : c.id = d.id) :
    c = d :=
  List.inj_on_of_nodup_map h.coherence.collection_ids hc hd hid

end LedgerInv

/-! ## What the first call leaves for the second -/

/-- **What a successful call establishes** about the collection it returns: the
order it is for, and that the collection is stored under the request's key with
the request's hash, or that nothing was and it is another collection of the
order's child account. -/
structure Answered (keccak256 : List UInt8 → BitVec 256) (config : CollectionServiceConfig)
    (db : LedgerDb) (route : CollectionRoute) (input : CreateCollectionInput) (o : OrderRecord)
    (c : CollectionRecord) : Prop where
  order : o ∈ db.payment.orders
  id : o.id = input.orderId
  owner : ∀ owner, input.principalSub = some owner → o.ownerSub = owner
  chain : o.chainId = config.chainId
  token : o.tokenAddress = config.tokenAddress
  amount : input.amount.validate = .ok ()
  key : trimText input.idempotencyKey ≠ ""
  mem : c ∈ db.collector.collections
  stored : (db.collector.keyed? o.ownerSub (trimText input.idempotencyKey) = some c
      ∧ c.requestHash = canonicalCollectionRequestHash keccak256
        { input with idempotencyKey := trimText input.idempotencyKey } config route)
    ∨ (¬ (c.ownerSub = o.ownerSub ∧ c.idempotencyKey = trimText input.idempotencyKey)
      ∧ c.childAccountId = o.childAccountId)

/-- The collection found under a key has that key. -/
theorem CollectorDb.keyed?_eq_some {db : CollectorDb} {ownerSub idempotencyKey : String}
    {c : CollectionRecord} (h : db.keyed? ownerSub idempotencyKey = some c) :
    c ∈ db.collections ∧ c.ownerSub = ownerSub ∧ c.idempotencyKey = idempotencyKey := by
  have hcond := List.find?_some h
  simp only [Bool.and_eq_true, decide_eq_true_eq] at hcond
  exact ⟨List.mem_of_find?_eq_some h, hcond⟩

/-- Nothing is stored under a key under which nothing is found. -/
theorem CollectorDb.not_keyed {db : CollectorDb} {ownerSub idempotencyKey : String}
    (h : db.keyed? ownerSub idempotencyKey = none) {c : CollectionRecord}
    (hc : c ∈ db.collections) : ¬ (c.ownerSub = ownerSub ∧ c.idempotencyKey = idempotencyKey) := by
  have hnot := List.find?_eq_none.mp h c hc
  simpa only [Bool.and_eq_true, decide_eq_true_eq] using hnot

/-- A call that returns a collection establishes it in the database it leaves. -/
theorem answered_of_ok {keccak256 : List UInt8 → BitVec 256} {config : CollectionServiceConfig}
    {db db' : LedgerDb} {now : Timestamp} {route : CollectionRoute} {input : CreateCollectionInput}
    {newId : Uuid} {outcome : CreateCollectionOutcome} {c : CollectionRecord}
    (h : createCollectionForRoute keccak256 config db now route input newId
      = .ok (db', outcome, c)) :
    ∃ o, Answered keccak256 config db' route input o c := by
  obtain ⟨o, collector, hamount, hkey, hview, -, hchain, htoken, hcreate, rfl, -⟩ :=
    createCollectionForRoute_eq_ok.mp h
  obtain ⟨ho, hid, howner, -⟩ := getOrderView_eq_ok hview
  refine ⟨o, ⟨ho, hid, howner, hchain, htoken, hamount, hkey, ?_, ?_⟩⟩
  · obtain ⟨hkeyed, -, rfl⟩ | ⟨-, hactive, rfl⟩ | ⟨-, -, -, -, rfl, rfl⟩ :=
      CollectorDb.createCollectionIdempotent_eq_ok hcreate
    · exact (CollectorDb.keyed?_eq_some hkeyed).1
    · exact List.mem_of_mem_filter (mem_of_firstBy hactive)
    · exact List.mem_append_right _ (List.mem_singleton_self _)
  · obtain ⟨hkeyed, hhash, rfl⟩ | ⟨hnone, hactive, rfl⟩ | ⟨hnone, -, -, -, rfl, rfl⟩ :=
      CollectorDb.createCollectionIdempotent_eq_ok hcreate
    · exact Or.inl ⟨hkeyed, hhash⟩
    · have hmem := mem_of_firstBy hactive
      obtain ⟨hmem, hsel⟩ := List.mem_filter.mp hmem
      simp only [Bool.and_eq_true, decide_eq_true_eq] at hsel
      exact Or.inr ⟨CollectorDb.not_keyed hnone hmem, hsel.1⟩
    · refine Or.inl ⟨?_, rfl⟩
      have hold : db.collector.collections.find? (fun c => decide (c.ownerSub = o.ownerSub)
          && decide (c.idempotencyKey = trimText input.idempotencyKey)) = none := hnone
      show List.find? _ (db.collector.collections ++ [CollectorDb.newCollection now _]) = _
      rw [List.find?_append, hold]
      simp [CollectorDb.newCollection, createCollectionCommand]

/-- It is kept, with the terms, by every later database. -/
theorem Answered.later {keccak256 : List UInt8 → BitVec 256} {config : CollectionServiceConfig}
    {db db' : LedgerDb} {route : CollectionRoute} {input : CreateCollectionInput} {o : OrderRecord}
    {c : CollectionRecord} (h : Answered keccak256 config db route input o c)
    (hext : db.Extends db') : ∃ o' c', o'.terms = o.terms ∧ c'.terms = c.terms
      ∧ Answered keccak256 config db' route input o' c' := by
  obtain ⟨o', ho', hterms⟩ := hext.exists_order h.order
  have hterms' := hterms
  simp only [OrderRecord.terms, OrderTerms.mk.injEq] at hterms'
  obtain ⟨hid, hown, hchild, -, hchain, htoken, -, -⟩ := hterms'
  have hbase : ∀ c' ∈ db'.collector.collections, c'.terms = c.terms →
      ((db'.collector.keyed? o'.ownerSub (trimText input.idempotencyKey) = some c'
          ∧ c'.requestHash = canonicalCollectionRequestHash keccak256
            { input with idempotencyKey := trimText input.idempotencyKey } config route)
        ∨ (¬ (c'.ownerSub = o'.ownerSub ∧ c'.idempotencyKey = trimText input.idempotencyKey)
          ∧ c'.childAccountId = o'.childAccountId)) →
      ∃ o' c', o'.terms = o.terms ∧ c'.terms = c.terms
        ∧ Answered keccak256 config db' route input o' c' := by
    intro c' hmem hcterms hstored
    refine ⟨o', c', hterms, hcterms, ⟨ho', hid.trans h.id, fun owner hp => ?_, ?_, ?_, h.amount,
      h.key, hmem, hstored⟩⟩
    · exact hown.trans (h.owner owner hp)
    · exact hchain.trans h.chain
    · exact htoken.trans h.token
  rcases h.stored with ⟨hkeyed, hhash⟩ | ⟨hnot, hcchild⟩
  · obtain ⟨c', hc', hcterms⟩ := hext.keyed hkeyed
    refine hbase c' (CollectorDb.keyed?_eq_some hc').1 hcterms (Or.inl ⟨?_, ?_⟩)
    · rw [hown]
      exact hc'
    · exact (congrArg CollectionTerms.requestHash hcterms).trans hhash
  · obtain ⟨c', hc', hcterms⟩ := hext.exists_collection h.mem
    have howner : c'.ownerSub = c.ownerSub := congrArg CollectionTerms.ownerSub hcterms
    have hckey : c'.idempotencyKey = c.idempotencyKey :=
      congrArg CollectionTerms.idempotencyKey hcterms
    have hcc : c'.childAccountId = c.childAccountId :=
      congrArg CollectionTerms.childAccountId hcterms
    refine hbase c' hc' hcterms (Or.inr ⟨?_, ?_⟩)
    · rw [howner, hckey, hown]
      exact hnot
    · rw [hcc, hchild]
      exact hcchild

/-! ## The second call -/

/-- **When a call returns a collection it was answered with before.** -/
theorem returns_iff_replayable {keccak256 : List UInt8 → BitVec 256}
    {config : CollectionServiceConfig} {db : LedgerDb} {now now' : Timestamp}
    {route : CollectionRoute} {input : CreateCollectionInput} {o : OrderRecord}
    {c : CollectionRecord} (h : LedgerInv db now)
    (ha : Answered keccak256 config db route input o c) (newId : Uuid) :
    Returns keccak256 config db now' route input newId c.id ↔ Replayable db route input c.id := by
  have hsame : ∀ o' ∈ db.payment.orders, o'.id = input.orderId → o' = o := fun o' ho' hid' =>
    List.inj_on_of_nodup_map h.reflect.ids ho' ha.order (hid'.trans ha.id.symm)
  constructor
  · rintro ⟨db', outcome, c', hok, hcid⟩
    obtain ⟨o', collector, -, -, hview, haccepts, -, -, hcreate, -, -⟩ :=
      createCollectionForRoute_eq_ok.mp hok
    obtain ⟨ho', hid', -, hpaid⟩ := getOrderView_eq_ok hview
    refine ⟨o', ho', hid', haccepts, hpaid, ?_⟩
    obtain ⟨hkeyed, -, -⟩ | ⟨hnone, hactive, -⟩ | ⟨-, -, -, hins, rfl, -⟩ :=
      CollectorDb.createCollectionIdempotent_eq_ok hcreate
    · refine Or.inl ?_
      have hkeyed' : db.collector.keyed? o'.ownerSub (trimText input.idempotencyKey) = some c' :=
        hkeyed
      rw [hkeyed', Option.map_some, hcid]
    · obtain ⟨hmem, hsel⟩ := List.mem_filter.mp (mem_of_firstBy hactive)
      simp only [Bool.and_eq_true, decide_eq_true_eq] at hsel
      exact Or.inr ⟨hnone, c', hmem, hcid, hsel.2⟩
    · -- a new collection has a new identifier
      exact absurd hcid.symm (hins.fresh c ha.mem)
  · rintro ⟨o', ho', hid', haccepts, hpaid, hcase⟩
    obtain rfl := hsame o' ho' hid'
    have hview : getOrderView db input.orderId input.principalSub = .ok (some o') := by
      rw [← hid']
      exact h.getOrderView_eq ho' ha.owner hpaid
    have hcreate : ∃ c', c'.id = c.id ∧ db.collector.createCollectionIdempotent now'
        (createCollectionCommand keccak256 config route
          { input with idempotencyKey := trimText input.idempotencyKey } newId o')
        = .ok (db.collector, c') := by
      rcases hcase with hkeyed | ⟨hnone, d, hd, hdid, hactive⟩
      · obtain ⟨d, hd, hdid⟩ := Option.map_eq_some_iff.mp hkeyed
        refine ⟨d, hdid, ?_⟩
        -- the collection found is the one answered with, so the hashes agree
        obtain ⟨hdmem, hdown, hdkey⟩ := CollectorDb.keyed?_eq_some hd
        obtain rfl := h.terms_eq hdmem ha.mem hdid
        rcases ha.stored with ⟨-, hhash⟩ | ⟨hnot, -⟩
        · unfold CollectorDb.createCollectionIdempotent
          split
          · rename_i existing hex
            obtain rfl : d = existing := Option.some.inj (hd.symm.trans hex)
            refine Except.bind_eq_ok.mpr ⟨(), ensure_eq_ok.mpr (decide_eq_true hhash), rfl⟩
          · rename_i hex
            exact absurd (hd.symm.trans hex) (by simp)
        · exact absurd ⟨hdown, hdkey⟩ hnot
      · obtain rfl := h.terms_eq hd ha.mem hdid
        refine ⟨d, rfl, ?_⟩
        rcases ha.stored with ⟨hkeyed, -⟩ | ⟨-, hchild⟩
        · rw [hkeyed] at hnone
          cases hnone
        · have hselect := h.selectActive_eq hd hactive
          rw [hchild] at hselect
          unfold CollectorDb.createCollectionIdempotent
          split
          · rename_i existing hex
            exact absurd (hnone.symm.trans hex) (by simp)
          · split
            · rename_i active hact
              rw [Option.some.inj (hselect.symm.trans hact)]
            · rename_i hact
              exact absurd (hselect.symm.trans hact) (by simp)
    obtain ⟨c', hcid, hcreate⟩ := hcreate
    exact ⟨_, _, c', createCollectionForRoute_eq_ok.mpr ⟨o', db.collector, ha.amount, ha.key, hview,
      haccepts, ha.chain, ha.token, hcreate, rfl, rfl⟩, hcid⟩

namespace LedgerSystem

/-- **A repeated request returns the same collection exactly when it is
replayable** at the time of the repetition: whatever ran before the first call,
and whatever ran between the two. -/
theorem replay_iff {keccak256 : List UInt8 → BitVec 256} {config : CollectionServiceConfig}
    {s₀ s s₁ s₂ s' : LedgerSystem} {before between : List (Timestamp × LedgerAction)}
    {t now : Timestamp} {a : LedgerAction} {route : CollectionRoute}
    {input : CreateCollectionInput} {id newId : Uuid} {db₁ : LedgerDb}
    {outcome : CreateCollectionOutcome} {c : CollectionRecord} (hinit : Initial s₀)
    (hbefore : runSteps (step keccak256 config) s₀ before = some s)
    (ha : s.request? a = some (route, input, id, s₁))
    (hcall : createCollectionForRoute keccak256 config s.db t route input id
      = .ok (db₁, outcome, c))
    (hstep : step keccak256 config s (t, a) = some s₂)
    (hbetween : runSteps (step keccak256 config) s₂ between = some s') :
    Returns keccak256 config s'.db now route input newId c.id
      ↔ Replayable s'.db route input c.id := by
  have hinv := ledgerInv_of_run hinit.ledgerInv hbefore
  have hinv₂ := ledgerInv_of_step hinv hstep
  have hdb : s₂.db = db₁ := by
    have hreq : requested keccak256 config s.db t route input id = db₁ := by
      unfold requested
      rw [hcall]
    obtain ⟨s₃, hact, rfl⟩ : ∃ s₃, act keccak256 config s t a = some s₃
        ∧ { s₃ with now := t } = s₂ := by
      unfold step at hstep
      split at hstep
      · exact Option.map_eq_some_iff.mp hstep
      · cases hstep
    show s₃.db = db₁
    have hacted : act keccak256 config s t a
        = some { s₁ with db := requested keccak256 config s.db t route input id } := by
      cases a with
      | order op => cases ha
      | startPaidPass i batchLimit updatedAt => cases ha
      | startProblemPass i => cases ha
      | collector call => cases ha
      | createCollection route' input' id' =>
        simp only [act]
        rw [ha]
      | enqueuePaid i id' =>
        simp only [act]
        rw [ha]
      | enqueueProblem i id' =>
        simp only [act]
        rw [ha]
    rw [hacted] at hact
    rw [← Option.some.inj hact]
    exact hreq
  obtain ⟨o, hans⟩ := answered_of_ok hcall
  rw [← hdb] at hans
  obtain ⟨o', c', -, hcterms, hans'⟩ := hans.later (extends_of_run hinv₂ hbetween)
  have hcid : c'.id = c.id := congrArg CollectionTerms.id hcterms
  rw [← hcid]
  exact returns_iff_replayable (ledgerInv_of_run hinv₂ hbetween) hans' newId

end LedgerSystem

namespace RepeatedSweep

open SmallLedger

/-- A caller asks for the whole amount. -/
def request : CreateCollectionInput := ⟨1, .exact 100, "sweep-1", none⟩

/-- The request of an enqueuer for the same order. -/
def autoRequest : CreateCollectionInput := PaidCollectionCandidate.input ⟨1, 100⟩

/-- The hashes of the two requests. -/
def keccak256 : List UInt8 → BitVec 256 :=
  keccakOf [(canonicalRequest request config .treasury,
      0x8469d54bcc2e68833c332ed151c7131cff04f49e09ba1a0144a02dc805bbdf2d),
    (canonicalRequest autoRequest config .treasury,
      0x960788806eec8bf46ddea173f2fc1c809624882cec08bcd5c7d54ab9c01e26cf)]

/-- The identifier a call returns. -/
def returned (s : LedgerSystem) (now : Timestamp) (newId : Uuid) : Option Uuid :=
  (createCollectionForRoute keccak256 config s.db now .treasury request newId).toOption.map
    (fun r => r.2.2.id)

theorem exists_of_returned {s : LedgerSystem} {now : Timestamp} {newId id : Uuid}
    (h : returned s now newId = some id) : ∃ db outcome c,
      createCollectionForRoute keccak256 config s.db now .treasury request newId
        = .ok (db, outcome, c) ∧ c.id = id := by
  unfold returned at h
  obtain ⟨⟨db, outcome, c⟩, hr, hid⟩ := Option.map_eq_some_iff.mp h
  exact ⟨db, outcome, c, Except.toOption_eq_some.mp hr, hid⟩

end RepeatedSweep

namespace LedgerSystem

open SmallLedger RepeatedSweep

/-- A collection created under the request's own key is returned again after it
was confirmed. -/
theorem replay_of_confirmed :
    ∃ s s', runSteps (step RepeatedSweep.keccak256 config) start paidOrder = some s
      ∧ returned s 10 0xd1 = some 0xd1
      ∧ runSteps (step RepeatedSweep.keccak256 config) start
          (paidOrder ++ [(10, .createCollection .treasury request 0xd1)]
            ++ swept 12 0xd1 0xe1 0x7e 100) = some s'
      ∧ s'.db.collector.collections.map (fun c => (c.id, c.status)) = [(0xd1, .confirmed)]
      ∧ Returns RepeatedSweep.keccak256 config s'.db 20 .treasury request 0xd2 0xd1 := by
  have hcall : (runSteps (step RepeatedSweep.keccak256 config) start paidOrder).bind
      (fun s => returned s 10 0xd1) = some 0xd1 := by decide +kernel
  obtain ⟨s, hs, hreturned⟩ := Option.bind_eq_some_iff.mp hcall
  obtain ⟨db₁, outcome, c, hok, hcid⟩ := exists_of_returned hreturned
  have hnext : (runSteps (step RepeatedSweep.keccak256 config) start paidOrder).bind (fun s =>
      (step RepeatedSweep.keccak256 config s (10, .createCollection .treasury request 0xd1)).bind
        (fun s₂ => (runSteps (step RepeatedSweep.keccak256 config) s₂
          (swept 12 0xd1 0xe1 0x7e 100)).map (fun s' =>
            (s'.db.collector.collections.map (fun c => (c.id, c.status)),
              decide (Replayable s'.db .treasury request 0xd1)))))
      = some ([(0xd1, .confirmed)], true) := by decide +kernel
  rw [hs, Option.bind_some] at hnext
  obtain ⟨s₂, hs₂, hnext⟩ := Option.bind_eq_some_iff.mp hnext
  obtain ⟨s', hs', hfacts⟩ := Option.map_eq_some_iff.mp hnext
  obtain ⟨hstatus, hreplay⟩ := Prod.mk.inj hfacts
  refine ⟨s, s', hs, hreturned, ?_, hstatus, ?_⟩
  · rw [List.append_assoc, runSteps_append, hs]
    exact runSteps_cons_eq_some.mpr ⟨s₂, hs₂, hs'⟩
  · have hiff : Returns RepeatedSweep.keccak256 config s'.db 20 .treasury request 0xd2 c.id
        ↔ Replayable s'.db .treasury request c.id :=
      replay_iff start_initial hs rfl hok hs₂ hs'
    rw [hcid] at hiff
    exact hiff.mpr (of_decide_eq_true hreplay)

/-- **A request answered with another's collection creates a second one when it
is repeated**: the first call finds the enqueuer's collection active and
returns it; once that is confirmed, the same request starts a new sweep. -/
theorem replay_fails :
    ¬ ∀ (keccak256 : List UInt8 → BitVec 256) (config : CollectionServiceConfig)
      (s₀ s s₂ s' : LedgerSystem) (before between : List (Timestamp × LedgerAction))
      (t now : Timestamp) (route : CollectionRoute) (input : CreateCollectionInput)
      (id newId : Uuid) (db₁ : LedgerDb) (outcome : CreateCollectionOutcome)
      (c : CollectionRecord), Initial s₀ →
      runSteps (step keccak256 config) s₀ before = some s →
      createCollectionForRoute keccak256 config s.db t route input id = .ok (db₁, outcome, c) →
      step keccak256 config s (t, .createCollection route input id) = some s₂ →
      runSteps (step keccak256 config) s₂ between = some s' →
      Returns keccak256 config s'.db now route input newId c.id := by
  intro hall
  have hcall : (runSteps (step RepeatedSweep.keccak256 config) start
      (paidOrder ++ [(10, .createCollection .treasury autoRequest 0xd1)])).bind
      (fun s => returned s 11 0xd2) = some 0xd1 := by decide +kernel
  have hnext : (runSteps (step RepeatedSweep.keccak256 config) start
      (paidOrder ++ [(10, .createCollection .treasury autoRequest 0xd1)])).bind (fun s =>
      (step RepeatedSweep.keccak256 config s (11, .createCollection .treasury request 0xd2)).bind
        (fun s₂ => (runSteps (step RepeatedSweep.keccak256 config) s₂
          (swept 12 0xd1 0xe1 0x7e 100)).map (fun s' => returned s' 20 0xd3)))
      = some (some 0xd3) := by decide +kernel
  obtain ⟨s, hs, hcall⟩ := Option.bind_eq_some_iff.mp hcall
  rw [hs, Option.bind_some] at hnext
  obtain ⟨db₁, outcome, c, hok, hcid⟩ := exists_of_returned hcall
  obtain ⟨s₂, hs₂, hnext⟩ := Option.bind_eq_some_iff.mp hnext
  obtain ⟨s', hs', hreturned⟩ := Option.map_eq_some_iff.mp hnext
  obtain ⟨db', outcome', c', hok', hcid'⟩ := hall RepeatedSweep.keccak256 config start s s₂ s' _ _
    11 20 .treasury request 0xd2 0xd3 db₁ outcome c start_initial hs hok hs₂ hs'
  obtain ⟨db'', outcome'', c'', hok'', hcid''⟩ := exists_of_returned hreturned
  rw [hok'] at hok''
  obtain ⟨-, hrest⟩ := Prod.mk.inj (Except.ok.inj hok'')
  obtain ⟨-, rfl⟩ := Prod.mk.inj hrest
  rw [hcid', hcid] at hcid''
  exact absurd hcid'' (by decide)

end LedgerSystem
