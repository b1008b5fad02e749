import Pay3.StoredTransactions

/-!
# One nonce per collection

A collection is sent at most once as long as all transactions signed for it
share one account and nonce. A replacement keeps both, so what decides is
`insert_signed_collect_tx`, which stores a transaction under a freshly
reserved nonce. It accepts a collection that is `transferring`, that is, one
that already has a transaction: a worker whose lease has run out between its
claim and its insert then stores a second one with another nonce.

`oneNonce_of_run` proves the property for every run in which no insert lands
on a `transferring` collection, and `oneNonce_fails` runs into the other case
with two workers.
-/

namespace CollectorState

/-- **All transactions ever stored for one collection carry the same account
and nonce.** -/
def OneNonce (s : CollectorState) : Prop :=
  ∀ p ∈ s.history.stored, ∀ q ∈ s.history.stored, p.1 = q.1 →
    p.2.chainId = q.2.chainId ∧ p.2.fromAddress = q.2.fromAddress ∧ p.2.nonce = q.2.nonce

instance (s : CollectorState) : Decidable (OneNonce s) :=
  inferInstanceAs (Decidable (∀ p ∈ s.history.stored, ∀ q ∈ s.history.stored, p.1 = q.1 → _))

/-- `insert_signed_collect_tx` is run for a collection that is
`transferring`. -/
def storesOntoTransferring (s : CollectorState) : CollectorAction → Bool
  | .worker w .store =>
    match s.pc w with
    | .signed job _ _ =>
      (s.db.collection? job.collection.id).any (fun c => decide (c.status = .transferring))
    | _ => false
  | _ => false

/-- The account and nonce of a stored transaction. -/
def account (o : OutboundTxRecord) : ℕ × EvmAddress × RawAmount :=
  (o.chainId, o.fromAddress, o.nonce)

/-- Storing one more transaction keeps the property if it agrees with those
stored before for its collection. -/
theorem oneNonce_append {stored : List (Uuid × OutboundTxRecord)} {i : Uuid}
    {row : OutboundTxRecord}
    (h : ∀ p ∈ stored, ∀ q ∈ stored, p.1 = q.1 → account p.2 = account q.2)
    (hrow : ∀ o, (i, o) ∈ stored → account o = account row) :
    ∀ p ∈ stored ++ [(i, row)], ∀ q ∈ stored ++ [(i, row)], p.1 = q.1 →
      account p.2 = account q.2 := by
  intro p hp q hq hpq
  rcases List.mem_append.mp hp with hp | hp
  · rcases List.mem_append.mp hq with hq | hq
    · exact h p hp q hq hpq
    · rw [List.mem_singleton.mp hq] at hpq ⊢
      have hpi : p = (i, p.2) := Prod.ext hpq rfl
      exact hrow p.2 (hpi ▸ hp)
  · rcases List.mem_append.mp hq with hq | hq
    · rw [List.mem_singleton.mp hp] at hpq ⊢
      have hqi : q = (i, q.2) := Prod.ext hpq.symm rfl
      exact (hrow q.2 (hqi ▸ hq)).symm
    · rw [List.mem_singleton.mp hp, List.mem_singleton.mp hq]

/-- The property, with the account and nonce as one value. -/
theorem oneNonce_iff {s : CollectorState} :
    OneNonce s ↔ ∀ p ∈ s.history.stored, ∀ q ∈ s.history.stored, p.1 = q.1 →
      account p.2 = account q.2 := by
  unfold OneNonce account
  simp only [Prod.mk.injEq]

/-- An insert that does not land on a `transferring` collection lands on one
for which nothing was stored. -/
theorem unstored_of_insert {s : CollectorState} {i : Uuid} {tx : NewSignedOutboundTx}
    {amount : RawAmount} {db : CollectorDb} {row : OutboundTxRecord} (hs : Sound s)
    (hfree : (s.db.collection? i).any (fun c => decide (c.status = .transferring)) = false)
    (hx : s.db.insertSignedCollectTx s.now i tx amount = .ok (db, row)) (o : OutboundTxRecord) :
    (i, o) ∉ s.history.stored := by
  obtain ⟨-, -, ⟨c, hc, hci, hatt⟩, -⟩ := CollectorDb.insertSignedCollectTx_eq_ok hx
  have hlookup : s.db.collection? i = some c := by
    rw [← hci]
    exact find?_eq_some_of_mem hs.store.collection_ids hc
  rw [hlookup] at hfree
  have hne : c.status ≠ .transferring := by simpa using hfree
  have hq : c.status = .queued := by
    cases hst : c.status with
    | queued => rfl
    | transferring => exact absurd hst hne
    | replacing => exact absurd hst (hs.store.status c hc)
    | confirming => rw [hst] at hatt; cases hatt
    | confirmed => rw [hst] at hatt; cases hatt
    | failed => rw [hst] at hatt; cases hatt
    | dropped => rw [hst] at hatt; cases hatt
    | replaced => rw [hst] at hatt; cases hatt
  rw [← hci]
  exact hs.store.queued c hc hq o

/-- A replacement carries the account and nonce of what it replaces. -/
theorem account_of_replace {s : CollectorState} {i : Uuid} {tx : OutboundTxRecord}
    {replacement : NewSignedOutboundTx} {db : CollectorDb} {row o : OutboundTxRecord}
    (hs : Sound s) (ho : (i, o) ∈ s.history.stored) (hid : o.id = tx.id)
    (hx : s.db.replaceSignedTx s.now tx.id replacement = .ok (db, row)) :
    account o = account row := by
  obtain ⟨⟨old, hold, -, hchain, hfrom, hnonce⟩, -, rfl, -⟩ :=
    CollectorDb.replaceSignedTx_eq_ok hx
  have hcore : old.core = o.core := hs.store.core_of_lookup ho hid hold
  calc account o
      = account old := Prod.ext (congrArg OutboundCore.chainId hcore.symm)
        (Prod.ext (congrArg OutboundCore.fromAddress hcore.symm)
          (congrArg OutboundCore.nonce hcore.symm))
    _ = account (CollectorDb.newOutboundRow s.now replacement (some tx.id)) :=
        Prod.ext hchain (Prod.ext hfrom hnonce)

/-- **One step keeps one nonce per collection**, unless it stores onto a
`transferring` collection. -/
theorem oneNonce_step {cfg : ℕ → CollectorConfig} {s t : CollectorState} {a : CollectorAction}
    (hs : Sound s) (h : OneNonce s) (ha : storesOntoTransferring s a = false)
    (hstep : step cfg s a = some t) : OneNonce t := by
  rw [oneNonce_iff] at h ⊢
  obtain ⟨command, -, -, rfl⟩ | hsur | ⟨w, b, r, rfl, hr, hm, rfl⟩ := step_cases hstep
  · exact h
  · rw [hsur.history]
    exact h
  · cases hm with
    | quiet hc hh hidle hb => exact h
    | sent hpc hpc' => exact h
    | leased hmem hf hc hb hpc hh => exact h
    | reserved ha' hpc hpc' => exact h
    | stored hb hpc hx =>
      rename_i job amount tx db row
      refine oneNonce_append h (fun o ho => absurd ho (unstored_of_insert hs ?_ hx o))
      subst hb
      unfold storesOntoTransferring at ha
      simpa only [hpc] using ha
    | replaced hb hpc hx =>
      obtain ⟨o, ho, hid⟩ := hs.claims w _ (by rw [hpc]; rfl)
      refine oneNonce_append h (fun o' ho' => ?_)
      exact (h _ ho' _ ho rfl).trans (account_of_replace hs ho hid hx)
    | markedBroadcast hpc hx => exact h
    | confirmed hpc hx => exact h
    | failed hpc hx => exact h

/-- **One nonce per collection.** In every run of any number of workers in which
no insert lands on a `transferring` collection, all transactions ever stored
for one collection carry the same account and nonce. -/
theorem oneNonce_of_run {cfg : ℕ → CollectorConfig} {s t : CollectorState}
    {as : List CollectorAction} (hinit : Initial s)
    (hfree : StepsMeet (step cfg) (fun s a => storesOntoTransferring s a = false) s as)
    (hr : runSteps (step cfg) s as = some t) : OneNonce t := by
  have h := inv_of_run (I := fun s => Sound s ∧ OneNonce s)
    (fun s a t hs ha hstep => ⟨hs.1.step hstep, oneNonce_step hs.1 hs.2 ha hstep⟩)
    ⟨hinit.sound, by rw [OneNonce, hinit.history]; exact fun p hp => absurd hp List.not_mem_nil⟩
    hfree hr
  exact h.2

open SmallDeployment in
/-- A collection sent, found stuck and replaced: two transactions, one nonce. -/
theorem oneNonce_of_replacement :
    ∃ t, runSteps (step config) initial
        (sentRun ++ .advanceClock 400000000 :: signReplacementBy 1 0 0xf1 0xe1
          ++ [.worker 1 .storeReplacement]) = some t
      ∧ t.history.stored.map (fun p => (p.1, account p.2))
        = [(0xd1, 1, 0xc1, 0), (0xd1, 1, 0xc1, 0)]
      ∧ OneNonce t := by
  have hrun : (runSteps (step config) initial
      (sentRun ++ .advanceClock 400000000 :: signReplacementBy 1 0 0xf1 0xe1
          ++ [.worker 1 .storeReplacement])).map
        (fun t => t.history.stored.map (fun p => (p.1, account p.2)))
      = some [(0xd1, 1, 0xc1, 0), (0xd1, 1, 0xc1, 0)] := by decide
  obtain ⟨t, ht, hstored⟩ := Option.map_eq_some_iff.mp hrun
  exact ⟨t, ht, hstored, oneNonce_of_run initial_initial (by decide) ht⟩

open SmallDeployment in
/-- **The property fails in general.** The lease of worker 0 runs out between
its claim and its reservation, worker 1 claims the same collection, and both
store a transaction: worker 0 with nonce 0, worker 1 with nonce 1, onto the
collection worker 0 has just moved to `transferring`. -/
theorem oneNonce_fails :
    ¬ ∀ (cfg : ℕ → CollectorConfig) (s t : CollectorState) (as : List CollectorAction),
      Initial s → runSteps (step cfg) s as = some t → OneNonce t := by
  intro hall
  have hrun : (runSteps (step config) initial
      (.createCollection command :: (claimJobBy 0 ++ .advanceClock 61000000 :: claimJobBy 1
        ++ reserveBy 0 ++ storeBy 0 0 0xf0 0xe0 ++ reserveBy 1 ++ storeBy 1 1 0xf1 0xe1))).map
        (fun t => decide (OneNonce t)) = some false := by decide
  obtain ⟨t, ht, hfalse⟩ := Option.map_eq_some_iff.mp hrun
  exact of_decide_eq_false hfalse (hall config initial t _ initial_initial ht)

end CollectorState
