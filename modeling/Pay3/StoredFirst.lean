import Pay3.CollectorMoves

/-!
# What is broadcast was stored first

A worker broadcasts what it has just stored, what it finds stored and signed,
or the replacement it has just stored. Each way has a transaction of its own
before the call, and an audit event may fail or the worker may stop in between.
Whatever the schedule, the bytes handed to the node are those of a row that was
committed before, and the rows keep their bytes for good.
-/

/-- The columns of a transaction that are written when it is stored and never again. -/
def OutboundTxRecord.written (o : OutboundTxRecord) : NewSignedOutboundTx where
  id := o.id
  chainId := o.chainId
  purpose := o.purpose
  fromAddress := o.fromAddress
  toAddress := o.toAddress
  nonce := o.nonce
  gasLimit := o.gasLimit
  maxFeePerGas := o.maxFeePerGas
  maxPriorityFeePerGas := o.maxPriorityFeePerGas
  txHash := o.txHash
  signedTx := o.signedTx
  replacementOf := o.replacementOf
  replacementReason := none

/-- What was written of each transaction. -/
def CollectorDb.written (db : CollectorDb) : List NewSignedOutboundTx :=
  db.outboundTransactions.map OutboundTxRecord.written

/-- What the table of outbound transactions holds of each of them: the
identifier and the bytes. -/
def CollectorDb.payloads (db : CollectorDb) : List (Uuid × List UInt8) :=
  db.outboundTransactions.map (fun o => (o.id, o.signedTx))

/-- What a worker that stands before `broadcast_signed_tx` is about to hand
over. -/
def CollectorPc.payload? : CollectorPc → Option (Uuid × List UInt8)
  | .broadcasting _ tx => some (tx.id, tx.signedTx)
  | _ => none

/-- Only a worker that stands there is about to hand anything over. -/
theorem CollectorPc.payload?_eq_some {pc : CollectorPc} {p : Uuid × List UInt8}
    (h : pc.payload? = some p) :
    ∃ i tx, pc = .broadcasting i tx ∧ p = (tx.id, tx.signedTx) := by
  cases pc with
  | broadcasting i tx => exact ⟨i, tx, rfl, (Option.some.inj h).symm⟩
  | _ => cases h

namespace CollectorState

/-- **The raw transactions handed to `broadcast_signed_tx`**, the first one first. -/
def handed (s : CollectorState) : List (List UInt8) :=
  s.history.sent.map OutboundTxRecord.signedTx

variable {cfg : CollectorConfig} {s : CollectorState} {w : ℕ} {pc : CollectorPc}
  {a : WorkerAction} {r : WorkerResult}

/-- A mark keeps what was written. -/
theorem written_of_mark {db db' : CollectorDb} {txId : Uuid} {able : String}
    {setOutbound : OutboundTxRecord → OutboundTxRecord} {starts : CollectionRecordStatus → Bool}
    {setCollection : CollectionRecord → CollectionRecord} {row : OutboundTxRecord}
    (h : db.markOutbound txId able setOutbound starts setCollection = .ok (db', row))
    (hset : ∀ o, (setOutbound o).written = o.written) : db.written <+: db'.written := by
  obtain ⟨-, -, rfl⟩ := CollectorDb.markOutbound_eq_ok h
  have hsame : (updateWhere (fun o => decide (o.id = txId) && o.status.isInFlight) setOutbound
      db.outboundTransactions).map OutboundTxRecord.written = db.written :=
    map_updateWhere hset db.outboundTransactions
  exact hsame ▸ List.prefix_refl _

/-- **Rows are only added, and keep what was written.** -/
theorem written_of_move (h : WorkerMove cfg s w pc a r) : s.db.written <+: r.db.written := by
  cases h with
  | quiet _ _ _ _ => exact List.prefix_refl _
  | sent _ _ => exact List.prefix_refl _
  | leased _ _ _ _ _ _ => exact List.prefix_refl _
  | reserved _ _ _ => exact List.prefix_refl _
  | stored _ _ hx =>
    obtain ⟨-, -, -, rfl⟩ := CollectorDb.insertSignedCollectTx_eq_ok hx
    unfold CollectorDb.written
    dsimp only
    rw [List.map_append]
    exact List.prefix_append _ _
  | replaced _ _ hx =>
    obtain ⟨-, -, -, rfl⟩ := CollectorDb.replaceSignedTx_eq_ok hx
    unfold CollectorDb.written
    dsimp only
    rw [List.map_append, map_updateWhere (fun o => by rfl)]
    exact List.prefix_append _ _
  | markedBroadcast _ hx => exact written_of_mark hx (fun _ => rfl)
  | confirmed _ hx => exact written_of_mark (CollectorDb.markConfirmed_eq_ok.mp hx).2 (fun _ => rfl)
  | failed _ hx => exact written_of_mark hx (fun _ => rfl)

/-- So they keep their bytes. -/
theorem payloads_of_move (h : WorkerMove cfg s w pc a r) : s.db.payloads <+: r.db.payloads := by
  have hpayloads : ∀ db : CollectorDb,
      db.payloads = db.written.map (fun tx => (tx.id, tx.signedTx)) := by
    intro db
    unfold CollectorDb.payloads CollectorDb.written
    rw [List.map_map]
    rfl
  rw [hpayloads, hpayloads]
  exact (written_of_move h).map _

/-- A row that is looked up is in the table with its bytes. -/
theorem payload_of_attached {db : CollectorDb} {c : CollectionRecord} {tx : OutboundTxRecord}
    (h : c.outboundTxId.bind db.outbound? = some tx) : (tx.id, tx.signedTx) ∈ db.payloads := by
  obtain ⟨i, -, hi⟩ := Option.bind_eq_some_iff.mp h
  exact List.mem_map.mpr ⟨tx, (mem_of_find?_key hi).1, rfl⟩

/-- **A worker comes to a broadcast from a row of the table**: it was looked up,
or has just been inserted. -/
theorem payload_of_move (h : WorkerMove cfg s w pc a r) {p : Uuid × List UInt8}
    (hp : r.pc.payload? = some p) : p ∈ r.db.payloads := by
  cases h with
  | quiet _ _ _ hb =>
    obtain ⟨i, tx, hpc, -⟩ := CollectorPc.payload?_eq_some hp
    exact absurd hpc (hb i tx)
  | sent _ hpc' =>
    rcases hpc' with rfl | rfl <;> cases hp
  | leased _ _ _ hb _ _ =>
    obtain ⟨i, tx, hpc, rfl⟩ := CollectorPc.payload?_eq_some hp
    show _ ∈ s.db.payloads
    exact payload_of_attached (hb i tx hpc)
  | reserved _ _ hpc' =>
    rcases hpc' with ⟨n, rfl, -⟩ | ⟨rfl, -⟩ <;> cases hp
  | stored _ _ hx =>
    obtain ⟨-, -, -, rfl⟩ := CollectorDb.insertSignedCollectTx_eq_ok hx
    obtain rfl := Option.some.inj hp
    exact List.mem_map.mpr ⟨_, List.mem_append_right _ (List.mem_singleton_self _), rfl⟩
  | replaced _ _ hx =>
    obtain ⟨-, -, -, rfl⟩ := CollectorDb.replaceSignedTx_eq_ok hx
    obtain rfl := Option.some.inj hp
    exact List.mem_map.mpr ⟨_, List.mem_append_right _ (List.mem_singleton_self _), rfl⟩
  | markedBroadcast _ _ => cases hp
  | confirmed _ _ => cases hp
  | failed _ _ => cases hp

/-- What a move hands over is what the worker was about to hand over. -/
theorem sent_of_move (h : WorkerMove cfg s w pc a r) {tx : OutboundTxRecord}
    (htx : tx ∈ r.history.sent) :
    tx ∈ s.history.sent ∨ pc.payload? = some (tx.id, tx.signedTx) := by
  cases h with
  | sent hpc _ =>
    rcases List.mem_append.mp htx with hold | hnew
    · exact Or.inl hold
    · obtain rfl := List.mem_singleton.mp hnew
      exact Or.inr (by rw [hpc]; rfl)
  | _ => exact Or.inl htx

/-- **The invariant of the broadcasts.** Whatever was handed over, or is about
to be, is stored. -/
structure StoredFirst (s : CollectorState) : Prop where
  waiting : ∀ w p, (s.pc w).payload? = some p → p ∈ s.db.payloads
  sent : ∀ tx ∈ s.history.sent, (tx.id, tx.signedTx) ∈ s.db.payloads

/-- It holds before anything happened. -/
theorem Initial.storedFirst (h : s.Initial) : s.StoredFirst := by
  refine ⟨fun w p hp => ?_, fun tx htx => ?_⟩
  · rw [h.idle w] at hp
    cases hp
  · rw [h.history] at htx
    cases htx

/-- Every step keeps it. -/
theorem StoredFirst.step {cfg : ℕ → CollectorConfig} {t : CollectorState} {a : CollectorAction}
    (hs : s.StoredFirst) (h : step cfg s a = some t) : t.StoredFirst := by
  obtain ⟨command, -, -, rfl⟩ | hsur | ⟨w, b, r, -, -, hm, rfl⟩ := step_cases h
  · exact ⟨hs.waiting, hs.sent⟩
  · obtain ⟨orders, hdb⟩ := hsur.db
    refine ⟨fun v p hp => ?_, fun tx htx => ?_⟩
    · rw [hsur.pc] at hp
      rw [hdb]
      exact hs.waiting v p hp
    · rw [hsur.history] at htx
      rw [hdb]
      exact hs.sent tx htx
  · have hgrow : ∀ p ∈ s.db.payloads, p ∈ r.db.payloads :=
      fun p hp => (payloads_of_move hm).subset hp
    refine ⟨fun v p hp => ?_, fun tx htx => ?_⟩
    · change (Function.update s.pc w r.pc v).payload? = some p at hp
      by_cases hv : v = w
      · rw [hv, Function.update_self] at hp
        exact payload_of_move hm hp
      · rw [Function.update_of_ne hv] at hp
        exact hgrow p (hs.waiting v p hp)
    · rcases sent_of_move hm htx with hold | hnow
      · exact hgrow _ (hs.sent tx hold)
      · exact hgrow _ (hs.waiting w _ hnow)

end CollectorState

/-- **Persisted before it is broadcast.** In every state a run reaches, whatever
has been handed to the node is the bytes of a stored row; and a call to
`broadcast_signed_tx` from there hands over the bytes of a row that is in the
table already, and leaves the table as it is. -/
theorem storedFirst_of_run (cfg : ℕ → CollectorConfig) (s t : CollectorState)
    (as : List CollectorAction) (hs : s.Initial)
    (hrun : runSteps (CollectorState.step cfg) s as = some t) :
    (∀ raw ∈ t.handed, ∃ row ∈ t.db.outboundTransactions, row.signedTx = raw)
      ∧ ∀ (w : ℕ) (answer : TxHash) (u : CollectorState),
        CollectorState.step cfg t (.worker w (.broadcast answer)) = some u →
          ∃ row ∈ t.db.outboundTransactions, u.handed = t.handed ++ [row.signedTx]
            ∧ u.db = t.db := by
  have ht : t.StoredFirst :=
    inv_of_run (P := fun _ _ => True) (fun _ _ _ hs _ h => hs.step h) hs.storedFirst
      (stepsMeet_of_forall (fun _ _ => trivial) s as) hrun
  refine ⟨fun raw hraw => ?_, fun w answer u hu => ?_⟩
  · obtain ⟨tx, htx, rfl⟩ := List.mem_map.mp hraw
    obtain ⟨row, hrow, heq⟩ := List.mem_map.mp (ht.sent tx htx)
    exact ⟨row, hrow, (Prod.mk.inj heq).2⟩
  · obtain ⟨r, hr, rfl⟩ := Option.map_eq_some_iff.mp hu
    cases hpc : t.pc w with
    | broadcasting c tx =>
      rw [hpc] at hr
      obtain rfl := Option.some.inj hr
      obtain ⟨row, hrow, heq⟩ := List.mem_map.mp (ht.waiting w (tx.id, tx.signedTx) (by rw [hpc]; rfl))
      refine ⟨row, hrow, ?_, rfl⟩
      show (t.history.sent ++ [tx]).map OutboundTxRecord.signedTx = _
      rw [List.map_append, (Prod.mk.inj heq).2]
      rfl
    | _ =>
      rw [hpc] at hr
      cases hr

open SmallDeployment in
/-- A transaction that was broadcast, and its row. -/
theorem storedFirst_of_sentRun :
    ∃ t, runSteps (CollectorState.step config) initial sentRun = some t ∧ t.handed = [[0x02]]
      ∧ ∃ row ∈ t.db.outboundTransactions, row.signedTx = [0x02] := by
  have hok : (runSteps (CollectorState.step config) initial sentRun).map CollectorState.handed
      = some [[0x02]] := by decide +kernel
  obtain ⟨t, hrun, hsent⟩ := Option.map_eq_some_iff.mp hok
  refine ⟨t, hrun, hsent, ?_⟩
  exact (storedFirst_of_run config initial t sentRun initial_initial hrun).1 [0x02]
    (by rw [hsent]; exact List.mem_singleton_self _)
