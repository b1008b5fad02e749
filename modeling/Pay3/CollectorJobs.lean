import Pay3.CollectorMoves

/-!
# The jobs of the workers

A worker signs for a job it read earlier, while the collection may have moved
on. What a job says of its collection that never changes is still true then:
the account the money is taken from. This module says where jobs come from, and
for which job a step signs.
-/

/-- **A collection is stored with this account.** -/
def CollectorDb.Origin (db : CollectorDb) (collectionId : Uuid) (holder : EvmAddress) : Prop :=
  (collectionId, holder) ∈ db.collections.map (fun c => (c.id, c.fromAddress))

/-- The job a worker holds. -/
def CollectorPc.job? : CollectorPc → Option CollectionJob
  | .replacing _ _ job | .planned _ _ job _ | .preparing job | .quoted job _ _ _
  | .reserved job _ _ _ _ | .signed job _ _ => some job
  | _ => none

/-- The worker, the job and the amount a step signs for: `build_collection_calldata`
stands right before the signature of a first transaction and of a replacement. -/
def CollectorState.signing? (s : CollectorState) :
    CollectorAction → Option (ℕ × CollectionJob × RawAmount)
  | .worker w (.sign _ _) =>
    match s.pc w with
    | .reserved job _ amount _ _ => some (w, job, amount)
    | _ => none
  | .worker w (.signReplacement _ _) =>
    match s.pc w with
    | .planned _ _ job plan => some (w, job, plan.amount)
    | _ => none
  | _ => none

namespace CollectorState

variable {cfg : CollectorConfig} {s : CollectorState} {w : ℕ} {pc : CollectorPc}
  {a : WorkerAction} {r : WorkerResult}

/-- **No step of a worker changes the account of a collection.** -/
theorem origins_of_move (h : WorkerMove cfg s w pc a r) :
    r.db.collections.map (fun c => (c.id, c.fromAddress))
      = s.db.collections.map (fun c => (c.id, c.fromAddress)) := by
  cases h with
  | quiet _ _ _ _ => rfl
  | sent _ _ => rfl
  | leased _ hf _ _ _ _ =>
    exact map_updateWhere (fun c => Prod.ext (hf.id c) (hf.fromAddress c)) _
  | reserved _ _ _ => rfl
  | stored _ _ hx =>
    obtain ⟨-, -, -, rfl⟩ := CollectorDb.insertSignedCollectTx_eq_ok hx
    refine map_updateWhere (fun c => ?_) _
    rfl
  | replaced _ _ hx =>
    obtain ⟨-, -, -, rfl⟩ := CollectorDb.replaceSignedTx_eq_ok hx
    refine map_updateWhere (fun c => ?_) _
    rfl
  | markedBroadcast _ hx =>
    obtain ⟨-, -, rfl⟩ := CollectorDb.markOutbound_eq_ok hx
    refine map_updateWhere (fun c => ?_) _
    rfl
  | confirmed _ hx =>
    obtain ⟨-, -, rfl⟩ := CollectorDb.markOutbound_eq_ok (CollectorDb.markConfirmed_eq_ok.mp hx).2
    refine map_updateWhere (fun c => ?_) _
    rfl
  | failed _ hx =>
    obtain ⟨-, -, rfl⟩ := CollectorDb.markOutbound_eq_ok hx
    refine map_updateWhere (fun c => ?_) _
    rfl

/-- A step of the system keeps every collection with its account. -/
theorem origin_of_step {cfg : ℕ → CollectorConfig} {t : CollectorState} {a : CollectorAction}
    (h : step cfg s a = some t) {i : Uuid} {holder : EvmAddress} (ho : s.db.Origin i holder) :
    t.db.Origin i holder := by
  unfold CollectorDb.Origin at ho ⊢
  obtain ⟨command, -, -, rfl⟩ | hsur | ⟨w, b, r, -, -, hm, rfl⟩ := step_cases h
  · dsimp only
    rw [List.map_append]
    exact List.mem_append_left _ ho
  · obtain ⟨orders, hdb⟩ := hsur.db
    rw [hdb]
    exact ho
  · show _ ∈ r.db.collections.map _
    rw [origins_of_move hm]
    exact ho

/-- The job after a fallible step without a transaction comes with its result. -/
theorem job_of_proceed {ε β : Type} {x : Except ε β} {next : β → CollectorPc} {P : Prop}
    {job : CollectionJob} (h : s.proceed x next = some r) (hjob : r.pc.job? = some job)
    (hok : ∀ b, x = .ok b → r.db = s.db → (next b).job? = some job → P) : P := by
  refine after_proceed (Q := fun r => r.pc.job? = some job →
    (∀ b, x = .ok b → r.db = s.db → (next b).job? = some job → P) → P) h ?_ ?_ hjob hok
  · intro hjob
    cases hjob
  · intro b hx hjob hok
    exact hok b hx rfl hjob

/-- The job after a transaction comes with its result. -/
theorem job_of_commit {ε β : Type} {x : Except ε (CollectorDb × β)} {record : β → CollectorHistory}
    {next : β → CollectorPc} {P : Prop} {job : CollectionJob}
    (h : s.commit x record next = some r) (hjob : r.pc.job? = some job)
    (hok : ∀ db b, x = .ok (db, b) → r.db = db → (next b).job? = some job → P) : P := by
  refine after_commit (Q := fun r => r.pc.job? = some job →
    (∀ db b, x = .ok (db, b) → r.db = db → (next b).job? = some job → P) → P) h ?_ ?_ hjob hok
  · intro hjob
    cases hjob
  · intro db b hx hjob hok
    exact hok db b hx rfl hjob

/-- The job of a collection that is claimed has its account. -/
theorem origin_of_claimJob {db : CollectorDb} {j : Option CollectionJob} {job : CollectionJob}
    (hx : s.db.claimCollectionJob s.now cfg.claimLeaseSeconds cfg.workerId cfg.chainId
      cfg.tokenAddress = .ok (db, j)) (hj : j = some job) :
    db.Origin job.collection.id job.collection.fromAddress := by
  obtain ⟨-, rfl⟩ | ⟨c, hc, -, -, ⟨j', hj', hcol⟩, rfl⟩ := CollectorDb.claimCollectionJob_cases hx
  · cases hj
  · obtain rfl := Option.some.inj (hj'.symm.trans hj)
    unfold CollectorDb.Origin
    dsimp only
    rw [map_updateWhere (fun c => by rfl), hcol]
    exact List.mem_map.mpr ⟨c, hc, rfl⟩

/-- The job a replacement goes on with is read from the row of the collection. -/
theorem row_of_eligibleJob {c : Uuid} {tx : OutboundTxRecord} {job : CollectionJob}
    (h : s.eligibleJob c tx = .ok job) :
    ∃ row ∈ s.db.collections, row.id = c ∧ job.collection = row := by
  unfold eligibleJob at h
  obtain ⟨j, hj, h⟩ := Except.bind_eq_ok.mp h
  obtain ⟨job', hjob', h⟩ := Except.bind_eq_ok.mp h
  obtain ⟨-, -, h⟩ := Except.bind_eq_ok.mp h
  obtain rfl := Except.pure_eq_ok.mp h
  obtain rfl := orError_eq_ok.mp hjob'
  have hget := Except.mapError_eq_ok.mp hj
  unfold CollectorDb.getCollectionJob at hget
  split at hget
  · cases hget
  · rename_i row hrow
    obtain ⟨j', hj', hget⟩ := Except.bind_eq_ok.mp hget
    obtain rfl := Option.some.inj (Except.pure_eq_ok.mp hget)
    unfold CollectorDb.collectionJobFromRecord at hj'
    obtain ⟨account, -, hj'⟩ := Except.bind_eq_ok.mp hj'
    obtain rfl := Except.pure_eq_ok.mp hj'
    obtain ⟨hmem, hid⟩ := mem_of_find?_key hrow
    exact ⟨row, hmem, hid, rfl⟩

/-- So it has the account of the collection. -/
theorem origin_of_eligibleJob {c : Uuid} {tx : OutboundTxRecord} {job : CollectionJob}
    (h : s.eligibleJob c tx = .ok job) :
    s.db.Origin job.collection.id job.collection.fromAddress := by
  obtain ⟨row, hrow, -, hcol⟩ := row_of_eligibleJob h
  rw [hcol]
  exact List.mem_map.mpr ⟨row, hrow, rfl⟩

/-- **The job a worker holds after a step** is the one it held, or was just read
from the table. -/
theorem job_of_workerStep (h : workerStep cfg s w pc a = some r) {job : CollectionJob}
    (hjob : r.pc.job? = some job) :
    pc.job? = some job ∨ r.db.Origin job.collection.id job.collection.fromAddress := by
  unfold workerStep at h
  split at h
  case h_1 | h_2 =>
    refine job_of_commit h hjob (fun db x _ _ hnext => ?_)
    cases x <;> cases hnext
  case h_3 =>
    refine job_of_commit h hjob (fun db x hx hdb hnext => Or.inr ?_)
    cases x with
    | none => cases hnext
    | some j =>
      rw [hdb]
      exact origin_of_claimJob hx hnext
  case h_4 c tx answer =>
    obtain rfl := Option.some.inj h
    dsimp only at hjob
    split at hjob <;> cases hjob
  case h_6 =>
    obtain rfl := Option.some.inj h
    dsimp only at hjob
    unfold afterReceipt at hjob
    repeat' split at hjob
    all_goals cases hjob
  case h_7 =>
    obtain rfl := Option.some.inj h
    dsimp only at hjob
    split at hjob <;> cases hjob
  case h_8 =>
    obtain rfl := Option.some.inj h
    dsimp only at hjob
    unfold afterBlock at hjob
    repeat' split at hjob
    all_goals cases hjob
  case h_11 =>
    refine job_of_proceed h hjob (fun j hj hdb hnext => Or.inr ?_)
    rw [hdb]
    obtain rfl := Option.some.inj hnext
    exact origin_of_eligibleJob hj
  case h_12 | h_15 | h_17 => exact job_of_proceed h hjob (fun _ _ _ hnext => Or.inl hnext)
  case h_13 => exact job_of_proceed h hjob (fun _ _ _ hnext => by cases hnext)
  case h_16 =>
    refine job_of_commit h hjob (fun db x _ _ hnext => Or.inl ?_)
    cases x with
    | error e => cases hnext
    | ok n => exact hnext
  case h_5 | h_9 | h_10 | h_14 | h_18 =>
    exact job_of_commit h hjob (fun _ _ _ _ hnext => by cases hnext)
  case h_19 =>
    obtain rfl := Option.some.inj h
    cases hjob
  case h_20 => cases h

/-- Every job a worker holds has the account of its collection. -/
def JobsOfRows (s : CollectorState) : Prop :=
  ∀ w job, (s.pc w).job? = some job → s.db.Origin job.collection.id job.collection.fromAddress

/-- It is so before anything happened. -/
theorem Initial.jobsOfRows (h : s.Initial) : s.JobsOfRows := by
  intro w job hjob
  rw [h.idle w] at hjob
  cases hjob

/-- It stays so. -/
theorem JobsOfRows.step {cfg : ℕ → CollectorConfig} {t : CollectorState} {a : CollectorAction}
    (hs : s.JobsOfRows) (h : step cfg s a = some t) : t.JobsOfRows := by
  intro v job hjob
  have hkeep : (s.pc v).job? = some job →
      t.db.Origin job.collection.id job.collection.fromAddress :=
    fun hold => origin_of_step h (hs v job hold)
  obtain ⟨command, -, -, rfl⟩ | hsur | ⟨w, b, r, -, hr, -, rfl⟩ := step_cases h
  · exact hkeep hjob
  · rw [hsur.pc] at hjob
    exact hkeep hjob
  · by_cases hv : v = w
    · subst hv
      have hpc : (s.moved v b r).pc v = r.pc := by
        show Function.update s.pc v r.pc v = r.pc
        exact Function.update_self _ _ _
      rw [hpc] at hjob
      rcases job_of_workerStep hr hjob with hold | horigin
      · exact hkeep hold
      · exact horigin
    · have hpc : (s.moved w b r).pc v = s.pc v := by
        show Function.update s.pc w r.pc v = s.pc v
        exact Function.update_of_ne hv _ _
      rw [hpc] at hjob
      exact hkeep hjob

/-- The job a step signs for is one a worker holds. -/
theorem job_of_signing {a : CollectorAction} {w : ℕ} {job : CollectionJob} {amount : RawAmount}
    (h : s.signing? a = some (w, job, amount)) : (s.pc w).job? = some job := by
  unfold signing? at h
  split at h
  · split at h
    · rename_i hpc
      simp only [Option.some.injEq, Prod.mk.injEq] at h
      obtain ⟨rfl, rfl, -⟩ := h
      rw [hpc]
      rfl
    · cases h
  · split at h
    · rename_i hpc
      simp only [Option.some.injEq, Prod.mk.injEq] at h
      obtain ⟨rfl, rfl, -⟩ := h
      rw [hpc]
      rfl
    · cases h
  · cases h

end CollectorState
