import Pay3.CollectorMoves

/-!
# What is stored, and for which collection

The invariant every run of the collector keeps, whatever its schedule. The
table of outbound transactions holds exactly the transactions the history
lists, and the columns that identify a transaction never change; a collection
is only ever attached to a transaction that was stored for it; a `queued`
collection has had none stored; and the transaction a worker is checking or
replacing was stored for the collection it claimed it under.
-/

/-- The columns of a stored transaction that no update changes. -/
structure OutboundCore where
  id : Uuid
  chainId : ℕ
  fromAddress : EvmAddress
  nonce : RawAmount
  txHash : TxHash
  deriving DecidableEq

/-- The identifying columns of a row. -/
def OutboundTxRecord.core (o : OutboundTxRecord) : OutboundCore :=
  ⟨o.id, o.chainId, o.fromAddress, o.nonce, o.txHash⟩

/-- An update of collections that keeps identifiers and attachments and leads
neither back to `queued` nor into `replacing`. -/
structure KeepsAttachment (f : CollectionRecord → CollectionRecord) : Prop where
  id : ∀ c, (f c).id = c.id
  outboundTxId : ∀ c, (f c).outboundTxId = c.outboundTxId
  queued : ∀ c, (f c).status = .queued → c.status = .queued
  replacing : ∀ c, (f c).status = .replacing → c.status = .replacing

/-- A lease keeps the attachment. -/
theorem LeaseOnly.keepsAttachment {f : CollectionRecord → CollectionRecord} (hf : LeaseOnly f) :
    KeepsAttachment f :=
  ⟨hf.id, hf.outboundTxId, fun c h => (hf.status c).symm.trans h,
    fun c h => (hf.status c).symm.trans h⟩

/-- **The invariant of the stored transactions.** -/
structure StoreInv (db : CollectorDb) (stored : List (Uuid × OutboundTxRecord)) : Prop where
  collection_ids : (db.collections.map CollectionRecord.id).Nodup
  outbound_ids : (db.outboundTransactions.map OutboundTxRecord.id).Nodup
  outbound_core : db.outboundTransactions.map OutboundTxRecord.core
    = stored.map (fun p => p.2.core)
  attached : ∀ c ∈ db.collections, ∀ i, c.outboundTxId = some i →
    ∃ o, (c.id, o) ∈ stored ∧ o.id = i
  queued : ∀ c ∈ db.collections, c.status = .queued → ∀ o, (c.id, o) ∉ stored
  known : ∀ p ∈ stored, ∃ c ∈ db.collections, c.id = p.1
  status : ∀ c ∈ db.collections, c.status ≠ .replacing

namespace StoreInv

variable {db db' : CollectorDb} {stored : List (Uuid × OutboundTxRecord)}

/-! ## What it says -/

/-- Every stored transaction is a row of the table, as far as its identifying
columns go. -/
theorem row_of_stored (h : StoreInv db stored) {p : Uuid × OutboundTxRecord} (hp : p ∈ stored) :
    ∃ o ∈ db.outboundTransactions, o.core = p.2.core := by
  have hmem : p.2.core ∈ stored.map (fun p => p.2.core) := List.mem_map_of_mem hp
  rw [← h.outbound_core] at hmem
  exact List.mem_map.mp hmem

/-- The identifiers of the stored transactions are those of the table. -/
theorem stored_ids (h : StoreInv db stored) : (stored.map (fun p => p.2.id)).Nodup := by
  have hmap := congrArg (List.map OutboundCore.id) h.outbound_core
  rw [List.map_map, List.map_map] at hmap
  have hids : stored.map (fun p => p.2.id)
      = db.outboundTransactions.map OutboundTxRecord.id := hmap.symm
  rw [hids]
  exact h.outbound_ids

/-- A transaction is stored for one collection only. -/
theorem eq_of_stored_id (h : StoreInv db stored) {p q : Uuid × OutboundTxRecord}
    (hp : p ∈ stored) (hq : q ∈ stored) (hid : p.2.id = q.2.id) : p = q :=
  List.inj_on_of_nodup_map h.stored_ids hp hq hid

/-- The row a lookup finds carries the columns the transaction was stored
with. -/
theorem core_of_lookup (h : StoreInv db stored) {p : Uuid × OutboundTxRecord} (hp : p ∈ stored)
    {i : Uuid} {o : OutboundTxRecord} (hi : p.2.id = i) (ho : db.outbound? i = some o) :
    o.core = p.2.core := by
  obtain ⟨hmem, hoi⟩ := mem_of_find?_key ho
  obtain ⟨o', ho', hcore⟩ := h.row_of_stored hp
  have hid : o.id = o'.id := by
    rw [hoi, ← hi]
    exact (congrArg OutboundCore.id hcore).symm
  rw [List.inj_on_of_nodup_map h.outbound_ids hmem ho' hid, hcore]

/-! ## What keeps it -/

/-- Other tables do not matter. -/
theorem of_eq (h : StoreInv db stored) (hc : db'.collections = db.collections)
    (ho : db'.outboundTransactions = db.outboundTransactions) : StoreInv db' stored := by
  constructor
  · rw [hc]; exact h.collection_ids
  · rw [ho]; exact h.outbound_ids
  · rw [ho]; exact h.outbound_core
  · rw [hc]; exact h.attached
  · rw [hc]; exact h.queued
  · rw [hc]; exact h.known
  · rw [hc]; exact h.status

/-- An update of the outbound transactions that keeps their identifying
columns. -/
theorem updateOutbounds (h : StoreInv db stored) {q : OutboundTxRecord → Bool}
    {g : OutboundTxRecord → OutboundTxRecord} (hg : ∀ o, (g o).core = o.core) :
    StoreInv { db with outboundTransactions := updateWhere q g db.outboundTransactions }
      stored where
  collection_ids := h.collection_ids
  outbound_ids := by
    rw [map_updateWhere (k := OutboundTxRecord.id) (fun o => congrArg OutboundCore.id (hg o))]
    exact h.outbound_ids
  outbound_core := (map_updateWhere hg _).trans h.outbound_core
  attached := h.attached
  queued := h.queued
  known := h.known
  status := h.status

/-- An update of the collections that keeps their attachments. -/
theorem updateCollections (h : StoreInv db stored) {p : CollectionRecord → Bool}
    {f : CollectionRecord → CollectionRecord} (hf : KeepsAttachment f) :
    StoreInv { db with collections := updateWhere p f db.collections } stored where
  collection_ids := by
    rw [map_updateWhere hf.id]
    exact h.collection_ids
  outbound_ids := h.outbound_ids
  outbound_core := h.outbound_core
  attached := by
    intro c hc i hi
    rcases mem_updateWhere.mp hc with ⟨d, hd, -, rfl⟩ | ⟨hc, -⟩
    · rw [hf.outboundTxId] at hi
      rw [hf.id]
      exact h.attached d hd i hi
    · exact h.attached c hc i hi
  queued := by
    intro c hc hs o
    rcases mem_updateWhere.mp hc with ⟨d, hd, -, rfl⟩ | ⟨hc, -⟩
    · rw [hf.id]
      exact h.queued d hd (hf.queued d hs) o
    · exact h.queued c hc hs o
  known := by
    intro p hp
    obtain ⟨c, hc, hcp⟩ := h.known p hp
    have hmem : c.id ∈ db.collections.map CollectionRecord.id := List.mem_map_of_mem hc
    rw [← map_updateWhere (p := _) hf.id] at hmem
    obtain ⟨d, hd, hdc⟩ := List.mem_map.mp hmem
    exact ⟨d, hd, hdc.trans hcp⟩
  status := by
    intro c hc hs
    rcases mem_updateWhere.mp hc with ⟨d, hd, -, rfl⟩ | ⟨hc, -⟩
    · exact h.status d hd (hf.replacing d hs)
    · exact h.status c hc hs

/-- A new collection is queued and has had nothing stored. -/
theorem create (h : StoreInv db stored) {now : Timestamp} {command : CreateCollectionCommand}
    (hid : ∀ d ∈ db.collections, d.id ≠ command.collectionId) :
    StoreInv { db with
      collections := db.collections ++ [CollectorDb.newCollection now command] } stored where
  collection_ids := by
    rw [List.map_append, List.nodup_append]
    refine ⟨h.collection_ids, by simp, fun a ha b hb hab => ?_⟩
    obtain ⟨d, hd, rfl⟩ := List.mem_map.mp ha
    rw [List.map_singleton, List.mem_singleton] at hb
    exact hid d hd (hab.trans hb)
  outbound_ids := h.outbound_ids
  outbound_core := h.outbound_core
  attached := by
    intro c hc i hi
    rcases List.mem_append.mp hc with hc | hc
    · exact h.attached c hc i hi
    · rw [List.mem_singleton.mp hc] at hi
      cases hi
  queued := by
    intro c hc hs o ho
    rcases List.mem_append.mp hc with hc | hc
    · exact h.queued c hc hs o ho
    · obtain ⟨d, hd, hdc⟩ := h.known _ ho
      rw [List.mem_singleton.mp hc] at hdc
      exact hid d hd hdc
  known := by
    intro p hp
    obtain ⟨c, hc, hcp⟩ := h.known p hp
    exact ⟨c, List.mem_append_left _ hc, hcp⟩
  status := by
    intro c hc hs
    rcases List.mem_append.mp hc with hc | hc
    · exact h.status c hc hs
    · rw [List.mem_singleton.mp hc] at hs
      cases hs

/-- A row stored for the collection `i`, to which exactly the collections `p`
selects are moved: `i` and no other. -/
theorem store (h : StoreInv db stored) {i : Uuid} {row : OutboundTxRecord}
    {p : CollectionRecord → Bool} {f : CollectionRecord → CollectionRecord}
    (hfresh : ∀ o ∈ db.outboundTransactions, o.id ≠ row.id)
    (hknown : ∃ c ∈ db.collections, c.id = i)
    (hsel : ∀ c ∈ db.collections, p c = true → c.id = i)
    (hrest : ∀ c ∈ db.collections, c.id = i → p c = false → c.status ≠ .queued)
    (hid : ∀ c, (f c).id = c.id) (htx : ∀ c, (f c).outboundTxId = some row.id)
    (hs : ∀ c, (f c).status = .transferring) :
    StoreInv { db with
        outboundTransactions := db.outboundTransactions ++ [row]
        collections := updateWhere p f db.collections } (stored ++ [(i, row)]) where
  collection_ids := by
    rw [map_updateWhere hid]
    exact h.collection_ids
  outbound_ids := by
    rw [List.map_append, List.nodup_append]
    refine ⟨h.outbound_ids, by simp, fun a ha b hb hab => ?_⟩
    obtain ⟨o, ho, rfl⟩ := List.mem_map.mp ha
    rw [List.map_singleton, List.mem_singleton] at hb
    exact hfresh o ho (hab.trans hb)
  outbound_core := by
    rw [List.map_append, List.map_append, h.outbound_core]
    rfl
  attached := by
    intro c hc j hj
    rcases mem_updateWhere.mp hc with ⟨d, hd, hp, rfl⟩ | ⟨hc, -⟩
    · rw [htx] at hj
      refine ⟨row, List.mem_append_right _ (List.mem_singleton.mpr ?_), Option.some.inj hj⟩
      rw [hid, hsel d hd hp]
    · obtain ⟨o, ho, hoj⟩ := h.attached c hc j hj
      exact ⟨o, List.mem_append_left _ ho, hoj⟩
  queued := by
    intro c hc hq o ho
    rcases mem_updateWhere.mp hc with ⟨d, -, -, rfl⟩ | ⟨hc, hp⟩
    · rw [hs] at hq
      cases hq
    · rcases List.mem_append.mp ho with ho | ho
      · exact h.queued c hc hq o ho
      · have hci : c.id = i := congrArg Prod.fst (List.mem_singleton.mp ho)
        exact hrest c hc hci hp hq
  known := by
    intro q hq
    have hold : ∃ c ∈ db.collections, c.id = q.1 := by
      rcases List.mem_append.mp hq with hq | hq
      · exact h.known q hq
      · rw [List.mem_singleton.mp hq]
        exact hknown
    obtain ⟨c, hc, hcq⟩ := hold
    have hmem : c.id ∈ db.collections.map CollectionRecord.id := List.mem_map_of_mem hc
    rw [← map_updateWhere (p := p) hid] at hmem
    obtain ⟨d, hd, hdc⟩ := List.mem_map.mp hmem
    exact ⟨d, hd, hdc.trans hcq⟩
  status := by
    intro c hc hr
    rcases mem_updateWhere.mp hc with ⟨d, -, -, rfl⟩ | ⟨hc, -⟩
    · rw [hs] at hr
      cases hr
    · exact h.status c hc hr

/-- `insert_signed_collect_tx` keeps the invariant. -/
theorem insert (h : StoreInv db stored) {now : Timestamp} {i : Uuid} {tx : NewSignedOutboundTx}
    {amount : RawAmount} {row : OutboundTxRecord}
    (hx : db.insertSignedCollectTx now i tx amount = .ok (db', row)) :
    StoreInv db' (stored ++ [(i, row)]) := by
  obtain ⟨hfresh, rfl, ⟨c, hc, hci, -⟩, rfl⟩ := CollectorDb.insertSignedCollectTx_eq_ok hx
  refine h.store hfresh ⟨c, hc, hci⟩ (fun d _ hd => ?_) (fun d _ hdi hd hq => ?_)
    (fun _ => rfl) (fun _ => rfl) (fun _ => rfl)
  · simp only [Bool.and_eq_true, decide_eq_true_eq] at hd
    exact hd.1
  · rw [hdi, hq] at hd
    simp [CollectorDb.isAttachable] at hd

/-- `replace_signed_tx` keeps the invariant, for a transaction that was stored
for the collection `i`. -/
theorem replace (h : StoreInv db stored) {now : Timestamp} {i oldTxId : Uuid}
    {replacement : NewSignedOutboundTx} {row : OutboundTxRecord}
    (hold : ∃ o, (i, o) ∈ stored ∧ o.id = oldTxId)
    (hx : db.replaceSignedTx now oldTxId replacement = .ok (db', row)) :
    StoreInv db' (stored ++ [(i, row)]) := by
  obtain ⟨-, hfresh, hrow, hdb⟩ := CollectorDb.replaceSignedTx_eq_ok hx
  obtain ⟨o, ho, hoi⟩ := hold
  have hmarked := h.updateOutbounds (q := fun o => decide (o.id = oldTxId))
    (g := CollectorDb.markReplaced now replacement.replacementReason) (fun _ => rfl)
  rw [hdb, hrow]
  refine hmarked.store (fun q hq hqi => ?_) (h.known _ ho) (fun c hc hsel => ?_) (fun c hc hci hsel hq => ?_)
    (fun _ => rfl) (fun _ => rfl) (fun _ => rfl)
  · rcases mem_updateWhere.mp hq with ⟨q', hq', -, rfl⟩ | ⟨hq, -⟩
    · exact hfresh q' hq' hqi
    · exact hfresh q hq hqi
  · obtain ⟨o', ho', hoi'⟩ := h.attached c hc oldTxId (of_decide_eq_true hsel)
    exact congrArg Prod.fst (h.eq_of_stored_id ho' ho (hoi'.trans hoi.symm))
  · exact h.queued c hc hq o (hci ▸ ho)

/-- The three `mark_*` transactions keep the invariant. -/
theorem mark (h : StoreInv db stored) {txId : Uuid} {able : String}
    {setOutbound : OutboundTxRecord → OutboundTxRecord}
    {starts : CollectionRecordStatus → Bool}
    {setCollection : CollectionRecord → CollectionRecord} {row : OutboundTxRecord}
    (hx : db.markOutbound txId able setOutbound starts setCollection = .ok (db', row))
    (hg : ∀ o, (setOutbound o).core = o.core) (hf : KeepsAttachment setCollection) :
    StoreInv db' stored := by
  obtain ⟨-, -, rfl⟩ := CollectorDb.markOutbound_eq_ok hx
  exact (h.updateOutbounds hg).updateCollections hf

end StoreInv

/-! ## Runs -/

/-- The claim of every worker is about a transaction stored for the collection
it was claimed under. -/
def ClaimsInv (stored : List (Uuid × OutboundTxRecord)) (pc : ℕ → CollectorPc) : Prop :=
  ∀ w p, (pc w).claimed? = some p → ∃ o, (p.1, o) ∈ stored ∧ o.id = p.2.id

/-- Claims stay good when more is stored and a worker lets go of its claim or
keeps it. -/
theorem ClaimsInv.update {stored stored' : List (Uuid × OutboundTxRecord)} {pc : ℕ → CollectorPc}
    (h : ClaimsInv stored pc) (hsub : stored ⊆ stored') {w : ℕ} {pc' : CollectorPc}
    (hpc : ∀ p, pc'.claimed? = some p → ∃ o, (p.1, o) ∈ stored' ∧ o.id = p.2.id) :
    ClaimsInv stored' (Function.update pc w pc') := by
  intro v p hp
  by_cases hvw : v = w
  · rw [hvw, Function.update_self] at hp
    exact hpc p hp
  · rw [Function.update_of_ne hvw] at hp
    obtain ⟨o, ho, hid⟩ := h v p hp
    exact ⟨o, hsub ho, hid⟩

namespace CollectorState

/-- The invariant of a state. -/
structure Sound (s : CollectorState) : Prop where
  store : StoreInv s.db s.history.stored
  claims : ClaimsInv s.history.stored s.pc

/-- It holds before anything happened. -/
theorem Initial.sound {s : CollectorState} (h : Initial s) : Sound s := by
  constructor
  · rw [h.history]
    constructor
    · rw [h.collections]; exact List.nodup_nil
    · rw [h.outbounds]; exact List.nodup_nil
    · rw [h.outbounds]; rfl
    · rw [h.collections]; exact fun c hc => absurd hc List.not_mem_nil
    · rw [h.collections]; exact fun c hc => absurd hc List.not_mem_nil
    · exact fun p hp => absurd hp List.not_mem_nil
    · rw [h.collections]; exact fun c hc => absurd hc List.not_mem_nil
  · intro w p hp
    rw [h.idle w] at hp
    cases hp

/-- A worker's move keeps it. -/
theorem Sound.move {s : CollectorState} {cfg : CollectorConfig} {w : ℕ} {a : WorkerAction}
    {r : WorkerResult} (hs : Sound s) (hm : WorkerMove cfg s w (s.pc w) a r) :
    Sound (s.moved w a r) := by
  have hsub : s.history.stored ⊆ s.history.stored := List.Subset.refl _
  cases hm with
  | quiet hc hh hidle hb =>
    refine ⟨hs.store, hs.claims.update hsub (fun p hp => ?_)⟩
    rcases hc with hc | hc
    · exact absurd (hc.symm.trans hp) (by simp)
    · exact hs.claims w p (hc.symm.trans hp)
  | sent hpc hpc' =>
    refine ⟨hs.store, hs.claims.update hsub (fun p hp => ?_)⟩
    rcases hpc' with rfl | rfl
    · cases hp
    · cases hp
  | leased hmem hf hc hb hpc hh =>
    refine ⟨hs.store.updateCollections hf.keepsAttachment, hs.claims.update hsub (fun p hp => ?_)⟩
    obtain ⟨-, hid, hbind⟩ := hc p hp
    obtain ⟨i, hi, ho⟩ := Option.bind_eq_some_iff.mp hbind
    obtain ⟨o, hmemo, hoi⟩ := hs.store.attached _ hmem i hi
    rw [hid]
    exact ⟨o, hmemo, hoi.trans (mem_of_find?_key ho).2.symm⟩
  | reserved ha hpc hpc' =>
    refine ⟨hs.store.of_eq rfl rfl, hs.claims.update hsub (fun p hp => ?_)⟩
    rcases hpc' with ⟨n, rfl, -⟩ | ⟨rfl, -⟩
    · cases hp
    · cases hp
  | stored ha hpc hx =>
    exact ⟨hs.store.insert hx,
      hs.claims.update (List.subset_append_left _ _) (fun p hp => by cases hp)⟩
  | replaced ha hpc hx =>
    have hclaim := hs.claims w _ (by rw [hpc]; rfl)
    exact ⟨hs.store.replace hclaim hx,
      hs.claims.update (List.subset_append_left _ _) (fun p hp => by cases hp)⟩
  | markedBroadcast hpc hx =>
    exact ⟨hs.store.mark hx (fun _ => rfl)
        ⟨fun _ => rfl, fun _ => rfl, fun _ h => (by cases h), fun _ h => (by cases h)⟩,
      hs.claims.update hsub (fun p hp => by cases hp)⟩
  | confirmed hpc hx =>
    obtain ⟨-, hx⟩ := CollectorDb.markConfirmed_eq_ok.mp hx
    exact ⟨hs.store.mark hx (fun _ => rfl)
        ⟨fun _ => rfl, fun _ => rfl, fun _ h => (by cases h), fun _ h => (by cases h)⟩,
      hs.claims.update hsub (fun p hp => by cases hp)⟩
  | failed hpc hx =>
    exact ⟨hs.store.mark hx (fun _ => rfl)
        ⟨fun _ => rfl, fun _ => rfl, fun _ h => (by cases h), fun _ h => (by cases h)⟩,
      hs.claims.update hsub (fun p hp => by cases hp)⟩

/-- **Every step keeps the invariant.** -/
theorem Sound.step {cfg : ℕ → CollectorConfig} {s t : CollectorState} {a : CollectorAction}
    (hs : Sound s) (h : CollectorState.step cfg s a = some t) : Sound t := by
  obtain ⟨command, hid, -, rfl⟩ | hsur | ⟨w, b, r, -, -, hm, rfl⟩ := step_cases h
  · exact ⟨hs.store.create hid, hs.claims⟩
  · obtain ⟨⟨orders, hdb⟩, hpc, hhist, -⟩ := hsur
    refine ⟨?_, ?_⟩
    · rw [hdb, hhist]
      exact hs.store.of_eq rfl rfl
    · rw [hpc, hhist]
      exact hs.claims
  · exact hs.move hm

/-- **Every run keeps the invariant.** -/
theorem Initial.sound_of_run {cfg : ℕ → CollectorConfig} {s t : CollectorState}
    {as : List CollectorAction} (h : Initial s) (hr : runSteps (CollectorState.step cfg) s as = some t) :
    Sound t :=
  inv_of_run (P := fun _ _ => True) (fun _ _ _ hs _ h => Sound.step hs h) h.sound
    (stepsMeet_of_forall (fun _ _ => trivial) s as) hr

end CollectorState
