import Pay3.StoredTransactions

/-!
# Terminal collections

A collection that is `confirmed` or `failed` should stay so, attached to the
transaction that settled it. Every writer but one looks at the status of the
collection it changes. `replace_signed_tx` looks at the outbound row instead,
and `ensure_replaceable` accepts a `failed` one: a replacement signed before
another worker failed the collection still lands, and takes the collection
back to `transferring`.

The invariant that carries the result is `Settled`: the transaction a terminal
collection is attached to is itself `confirmed` or `failed`.
-/

/-- The statuses a transaction ends in through the receipt check. -/
def OutboundTxStatus.isSettled : OutboundTxStatus → Bool
  | .confirmed | .failed => true
  | _ => false

/-- What is settled is no longer in flight. -/
theorem OutboundTxStatus.not_inFlight_of_settled {s : OutboundTxStatus} (h : s.isSettled = true) :
    s.isInFlight = false := by
  cases s <;> first | rfl | cases h

namespace CollectorDb

/-- **A terminal collection is attached to a settled transaction.** -/
def Settled (db : CollectorDb) : Prop :=
  ∀ c ∈ db.collections, c.status.isTerminal = true →
    ∃ o ∈ db.outboundTransactions, c.outboundTxId = some o.id ∧ o.status.isSettled = true

/-- **The terminal collections of `db` are the same in `db'`**, with their
status and the transaction they are attached to. -/
def TerminalKept (db db' : CollectorDb) : Prop :=
  ∀ i c, db.collection? i = some c → c.status.isTerminal = true →
    ∃ c', db'.collection? i = some c' ∧ c'.status = c.status
      ∧ c'.outboundTxId = c.outboundTxId

namespace TerminalKept

variable {db db' db'' : CollectorDb}

theorem refl (db : CollectorDb) : TerminalKept db db :=
  fun _ c hc _ => ⟨c, hc, rfl, rfl⟩

theorem trans (h : TerminalKept db db') (h' : TerminalKept db' db'') : TerminalKept db db'' := by
  intro i c hc ht
  obtain ⟨c', hc', hs', ho'⟩ := h i c hc ht
  obtain ⟨c'', hc'', hs'', ho''⟩ := h' i c' hc' (by rw [hs']; exact ht)
  exact ⟨c'', hc'', hs''.trans hs', ho''.trans ho'⟩

/-- Other tables do not matter. -/
theorem of_eq (h : db'.collections = db.collections) : TerminalKept db db' := by
  intro i c hc _
  refine ⟨c, ?_, rfl, rfl⟩
  unfold collection? at hc ⊢
  rw [h]
  exact hc

/-- A new collection changes no other. -/
theorem of_append {more : List CollectionRecord}
    (h : db'.collections = db.collections ++ more) : TerminalKept db db' := by
  intro i c hc _
  refine ⟨c, ?_, rfl, rfl⟩
  unfold collection? at hc ⊢
  rw [h]
  exact find?_append_of_some hc

/-- An update keeps the terminal collections if it keeps the status and the
attachment of those it selects. -/
theorem of_update {p : CollectionRecord → Bool} {f : CollectionRecord → CollectionRecord}
    (h : db'.collections = updateWhere p f db.collections) (hid : ∀ c, (f c).id = c.id)
    (hf : ∀ c ∈ db.collections, c.status.isTerminal = true → p c = true →
      (f c).status = c.status ∧ (f c).outboundTxId = c.outboundTxId) : TerminalKept db db' := by
  intro i c hc ht
  have hmem := (mem_of_find?_key hc).1
  rw [collection?_updateWhere h hid, hc]
  by_cases hp : p c = true
  · refine ⟨f c, by simp [hp], hf c hmem ht hp⟩
  · exact ⟨c, by simp [hp], rfl, rfl⟩

end TerminalKept

/-! ## The mark transactions -/

section Mark

variable {db db' : CollectorDb} {txId : Uuid} {able : String}
  {setOutbound : OutboundTxRecord → OutboundTxRecord} {starts : CollectionRecordStatus → Bool}
  {setCollection : CollectionRecord → CollectionRecord} {row : OutboundTxRecord}

/-- A mark that starts from no terminal status keeps the terminal
collections. -/
theorem terminalKept_mark
    (hx : db.markOutbound txId able setOutbound starts setCollection = .ok (db', row))
    (hid : ∀ c, (setCollection c).id = c.id)
    (hstarts : ∀ s : CollectionRecordStatus, s.isTerminal = true → starts s = false) :
    TerminalKept db db' := by
  obtain ⟨-, -, rfl⟩ := markOutbound_eq_ok hx
  refine TerminalKept.of_update rfl hid (fun c _ ht hp => ?_)
  rw [hstarts c.status ht, Bool.and_false] at hp
  cases hp

/-- A mark settles the transaction of every collection it makes terminal, and
leaves settled transactions alone. -/
theorem settled_mark (h : Settled db)
    (hx : db.markOutbound txId able setOutbound starts setCollection = .ok (db', row))
    (hid : ∀ o, (setOutbound o).id = o.id)
    (htx : ∀ c, (setCollection c).outboundTxId = c.outboundTxId)
    (hset : (∀ c, (setCollection c).status.isTerminal = false)
      ∨ ∀ o, (setOutbound o).status.isSettled = true) : Settled db' := by
  obtain ⟨⟨o, ho, hoid, hflight, -⟩, -, rfl⟩ := markOutbound_eq_ok hx
  intro c hc ht
  rcases mem_updateWhere.mp hc with ⟨d, hd, hp, rfl⟩ | ⟨hc, -⟩
  · rcases hset with hset | hset
    · rw [hset d] at ht
      cases ht
    · refine ⟨setOutbound o, mem_updateWhere.mpr (Or.inl ⟨o, ho, ?_, rfl⟩), ?_, hset o⟩
      · rw [hflight, hoid, decide_eq_true rfl, Bool.and_self]
      · simp only [Bool.and_eq_true, decide_eq_true_eq] at hp
        rw [htx, hp.1, hid, hoid]
  · obtain ⟨q, hq, hqc, hqs⟩ := h c hc ht
    refine ⟨q, mem_updateWhere.mpr (Or.inr ⟨hq, ?_⟩), hqc, hqs⟩
    rw [OutboundTxStatus.not_inFlight_of_settled hqs, Bool.and_false]

end Mark

/-! ## Storing and replacing -/

variable {db db' : CollectorDb} {now : Timestamp} {row : OutboundTxRecord}

/-- No terminal status is attachable. -/
theorem not_terminal_of_attachable {s : CollectionRecordStatus} (h : isAttachable s = true) :
    s.isTerminal = false := by
  cases s <;> first | rfl | cases h

/-- An insert attaches only to collections that are not terminal. -/
theorem terminalKept_insert {i : Uuid} {tx : NewSignedOutboundTx} {amount : RawAmount}
    (hx : db.insertSignedCollectTx now i tx amount = .ok (db', row)) : TerminalKept db db' := by
  obtain ⟨-, -, -, rfl⟩ := insertSignedCollectTx_eq_ok hx
  refine TerminalKept.of_update rfl (fun _ => rfl) (fun c _ ht hp => ?_)
  simp only [Bool.and_eq_true] at hp
  rw [not_terminal_of_attachable hp.2] at ht
  cases ht

/-- An insert keeps the settled transactions. -/
theorem settled_insert {i : Uuid} {tx : NewSignedOutboundTx} {amount : RawAmount}
    (h : Settled db) (hx : db.insertSignedCollectTx now i tx amount = .ok (db', row)) :
    Settled db' := by
  obtain ⟨-, -, -, rfl⟩ := insertSignedCollectTx_eq_ok hx
  intro c hc ht
  rcases mem_updateWhere.mp hc with ⟨d, -, -, rfl⟩ | ⟨hc, -⟩
  · cases ht
  · obtain ⟨o, ho, hoc, hos⟩ := h c hc ht
    exact ⟨o, List.mem_append_left _ ho, hoc, hos⟩

/-- A replacement of a transaction that is not `failed` moves no terminal
collection. -/
theorem terminalKept_replace {oldTxId : Uuid} {replacement : NewSignedOutboundTx}
    (hids : (db.outboundTransactions.map OutboundTxRecord.id).Nodup) (h : Settled db)
    (hfailed : (db.outbound? oldTxId).any (fun o => decide (o.status = .failed)) = false)
    (hx : db.replaceSignedTx now oldTxId replacement = .ok (db', row)) : TerminalKept db db' := by
  obtain ⟨⟨old, hold, hstatus, -⟩, -, -, rfl⟩ := replaceSignedTx_eq_ok hx
  refine TerminalKept.of_update rfl (fun _ => rfl) (fun c hc ht hp => ?_)
  -- the transaction of a terminal collection is settled, and a replaceable one is not
  exfalso
  obtain ⟨o, ho, hoc, hos⟩ := h c hc ht
  have hoid : o.id = oldTxId := Option.some.inj (hoc.symm.trans (of_decide_eq_true hp))
  have hlookup : db.outbound? oldTxId = some o := by
    rw [← hoid]
    exact find?_eq_some_of_mem hids ho
  have hoo : old = o := Option.some.inj (hold.symm.trans hlookup)
  rw [hlookup] at hfailed
  have hne : o.status ≠ .failed := by simpa using hfailed
  rw [hoo] at hstatus
  rcases hstatus with hs | hs | hs | hs
  · rw [hs] at hos; cases hos
  · rw [hs] at hos; cases hos
  · exact hne hs
  · rw [hs] at hos; cases hos

/-- A replacement keeps the settled transactions of the collections it leaves
terminal. -/
theorem settled_replace {oldTxId : Uuid} {replacement : NewSignedOutboundTx} (h : Settled db)
    (hx : db.replaceSignedTx now oldTxId replacement = .ok (db', row)) : Settled db' := by
  obtain ⟨-, -, -, rfl⟩ := replaceSignedTx_eq_ok hx
  intro c hc ht
  rcases mem_updateWhere.mp hc with ⟨d, -, -, rfl⟩ | ⟨hc, hp⟩
  · cases ht
  · obtain ⟨o, ho, hoc, hos⟩ := h c hc ht
    refine ⟨o, List.mem_append_left _ (mem_updateWhere.mpr (Or.inr ⟨ho, ?_⟩)), hoc, hos⟩
    refine decide_eq_false (fun hoid => ?_)
    rw [hoc, hoid] at hp
    simp at hp

end CollectorDb

namespace CollectorState

open CollectorDb

/-- `replace_signed_tx` is run on a transaction that is `failed`. -/
def replacesFailed (s : CollectorState) : CollectorAction → Bool
  | .worker w .storeReplacement =>
    match s.pc w with
    | .replacementSigned _ tx _ =>
      (s.db.outbound? tx.id).any (fun o => decide (o.status = .failed))
    | _ => false
  | _ => false

/-- **Every step keeps the settled transactions.** -/
theorem settled_step {cfg : ℕ → CollectorConfig} {s t : CollectorState} {a : CollectorAction}
    (h : Settled s.db) (hstep : step cfg s a = some t) : Settled t.db := by
  obtain ⟨command, -, -, rfl⟩ | hsur | ⟨w, b, r, rfl, -, hm, rfl⟩ := step_cases hstep
  · intro c hc ht
    rcases List.mem_append.mp hc with hc | hc
    · exact h c hc ht
    · rw [List.mem_singleton.mp hc] at ht
      cases ht
  · obtain ⟨orders, hdb⟩ := hsur.db
    rw [hdb]
    exact h
  · cases hm with
    | quiet hc hh hidle hb => exact h
    | sent hpc hpc' => exact h
    | leased hmem hf hc hb hpc hh =>
      intro c hc ht
      rcases mem_updateWhere.mp hc with ⟨d, hd, -, rfl⟩ | ⟨hc, -⟩
      · rw [hf.status] at ht
        rw [hf.outboundTxId]
        exact h d hd ht
      · exact h c hc ht
    | reserved hb hpc hpc' => exact h
    | stored hb hpc hx => exact settled_insert h hx
    | replaced hb hpc hx => exact settled_replace h hx
    | markedBroadcast hpc hx =>
      exact settled_mark h hx (fun _ => rfl) (fun _ => rfl) (Or.inl fun _ => rfl)
    | confirmed hpc hx =>
      exact settled_mark h (markConfirmed_eq_ok.mp hx).2 (fun _ => rfl) (fun _ => rfl)
        (Or.inr fun _ => rfl)
    | failed hpc hx =>
      exact settled_mark h hx (fun _ => rfl) (fun _ => rfl) (Or.inr fun _ => rfl)

/-- **A step that replaces no failed transaction keeps the terminal
collections.** -/
theorem terminalKept_step {cfg : ℕ → CollectorConfig} {s t : CollectorState}
    {a : CollectorAction} (hs : Sound s) (h : Settled s.db) (ha : replacesFailed s a = false)
    (hstep : step cfg s a = some t) : TerminalKept s.db t.db := by
  obtain ⟨command, -, -, rfl⟩ | hsur | ⟨w, b, r, rfl, -, hm, rfl⟩ := step_cases hstep
  · exact TerminalKept.of_append rfl
  · obtain ⟨orders, hdb⟩ := hsur.db
    exact TerminalKept.of_eq (by rw [hdb])
  · cases hm with
    | quiet hc hh hidle hb => exact TerminalKept.refl _
    | sent hpc hpc' => exact TerminalKept.refl _
    | leased hmem hf hc hb hpc hh =>
      exact TerminalKept.of_update rfl hf.id (fun c _ _ _ => ⟨hf.status c, hf.outboundTxId c⟩)
    | reserved hb hpc hpc' => exact TerminalKept.of_eq rfl
    | stored hb hpc hx => exact terminalKept_insert hx
    | replaced hb hpc hx =>
      refine terminalKept_replace hs.store.outbound_ids h ?_ hx
      subst hb
      unfold replacesFailed at ha
      simpa only [hpc] using ha
    | markedBroadcast hpc hx =>
      exact terminalKept_mark hx (fun _ => rfl) (fun s hs => by cases s <;> first | rfl | cases hs)
    | confirmed hpc hx =>
      exact terminalKept_mark (markConfirmed_eq_ok.mp hx).2 (fun _ => rfl)
        (fun s hs => by cases s <;> first | rfl | cases hs)
    | failed hpc hx =>
      exact terminalKept_mark hx (fun _ => rfl) (fun s hs => by cases s <;> first | rfl | cases hs)

/-- **Terminal collections stay terminal.** In every run of any number of
workers in which no replacement lands on a `failed` transaction, a collection
that is `confirmed` or `failed` at some moment has the same status and the
same attached transaction at every later one. -/
theorem terminalKept_of_run {cfg : ℕ → CollectorConfig} {s₀ s t : CollectorState}
    {as bs : List CollectorAction} (hinit : Initial s₀)
    (hfree : StepsMeet (step cfg) (fun s a => replacesFailed s a = false) s bs)
    (hs : runSteps (step cfg) s₀ as = some s) (hr : runSteps (step cfg) s bs = some t) :
    TerminalKept s.db t.db := by
  have hsettled₀ : Settled s₀.db := by
    intro c hc
    rw [hinit.collections] at hc
    exact absurd hc List.not_mem_nil
  have hsettled : Settled s.db :=
    inv_of_run (P := fun _ _ => True) (fun _ _ _ h _ hstep => settled_step h hstep) hsettled₀
      (stepsMeet_of_forall (fun _ _ => trivial) s₀ as) hs
  exact rel_of_run (I := fun s => Sound s ∧ Settled s.db)
    (R := fun s t => TerminalKept s.db t.db)
    (fun s => TerminalKept.refl s.db) (fun _ _ _ h h' => h.trans h')
    (fun _ _ _ h _ hstep => ⟨h.1.step hstep, settled_step h.2 hstep⟩)
    (fun _ _ _ h ha hstep => terminalKept_step h.1 h.2 ha hstep)
    ⟨hinit.sound_of_run hs, hsettled⟩ hfree hr

open SmallDeployment in
/-- A collection is confirmed, and the next tick of the other worker leaves it
alone. -/
theorem terminalKept_of_confirmed :
    ∃ s t, runSteps (step config) initial (sentRun ++ .newChain (mined .success) :: confirmBy 1)
        = some s
      ∧ runSteps (step config) s (claimJobBy 0) = some t
      ∧ (s.db.collection? 0xd1).map CollectionRecord.status = some .confirmed
      ∧ TerminalKept s.db t.db := by
  have hs : (runSteps (step config) initial
      (sentRun ++ .newChain (mined .success) :: confirmBy 1)).map
        (fun s => ((s.db.collection? 0xd1).map CollectionRecord.status,
          (runSteps (step config) s (claimJobBy 0)).isSome,
          decide (StepsMeet (step config) (fun s a => replacesFailed s a = false) s
            (claimJobBy 0))))
      = some (some .confirmed, true, true) := by decide
  obtain ⟨s, hs, hrest⟩ := Option.map_eq_some_iff.mp hs
  simp only [Prod.mk.injEq, decide_eq_true_eq] at hrest
  obtain ⟨t, ht⟩ := Option.isSome_iff_exists.mp hrest.2.1
  exact ⟨s, t, hs, ht, hrest.1, terminalKept_of_run initial_initial hrest.2.2 hs ht⟩

open SmallDeployment in
/-- **The property fails in general.** Worker 1 finds no receipt, signs a
replacement and stalls; worker 2 reads the reverted receipt and fails the
collection; the replacement of worker 1 then lands on the failed transaction
and takes the collection back to `transferring`. -/
theorem terminalKept_fails :
    ¬ ∀ (cfg : ℕ → CollectorConfig) (s₀ s t : CollectorState) (as bs : List CollectorAction),
      Initial s₀ → runSteps (step cfg) s₀ as = some s → runSteps (step cfg) s bs = some t →
        TerminalKept s.db t.db := by
  intro hall
  have hrun : (runSteps (step config) initial
      (sentRun ++ .advanceClock 400000000 :: signReplacementBy 1 0 0xf1 0xe1
        ++ .advanceClock 61000000 :: .newChain (mined .reverted) :: failBy 2)).map
        (fun s => ((s.db.collection? 0xd1).map CollectionRecord.status,
          (runSteps (step config) s [.worker 1 .storeReplacement]).map
            (fun t => (t.db.collection? 0xd1).map CollectionRecord.status)))
      = some (some .failed, some (some .transferring)) := by decide
  obtain ⟨s, hs, hrest⟩ := Option.map_eq_some_iff.mp hrun
  rw [Prod.mk.injEq] at hrest
  obtain ⟨t, ht, htransferring⟩ := Option.map_eq_some_iff.mp hrest.2
  obtain ⟨c, hc, hfailed⟩ := Option.map_eq_some_iff.mp hrest.1
  obtain ⟨c', hc', hkept, -⟩ := hall config initial s t _ _ initial_initial hs ht 0xd1 c hc
    (by rw [hfailed]; rfl)
  rw [hc', Option.map_some, hkept, hfailed] at htransferring
  exact absurd htransferring (by decide)

end CollectorState
