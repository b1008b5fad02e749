import Pay3.CollectionCalldata
import Pay3.CollectorJobs
import Pay3.StoredTransactions

/-!
# The amount on record and the amount signed

A collection without an amount takes the whole balance of its account. The
balance is read by the worker that signs, and the amount is written with the
signed transaction: `COALESCE` keeps an amount that is there already. When two
workers hold the same collection, the first to store writes the amount, and the
second, whose balance may have been another, attaches its transaction to it.

The calldata of every transaction is kept beside the collector: what each worker
signed last, and what was stored under which identifier.
-/

/-- The amount of a plain transfer. -/
def Token.Call.transferred? : Token.Call → Option (BitVec 256)
  | .transfer _ value => some value
  | _ => none

/-- The amount a call asks for. -/
def Token.Call.amount? : Token.Call → Option (BitVec 256)
  | .transfer _ value => some value
  | .transferWithAuthorization _ _ value _ _ _ _ => some value
  | .executeMetaTransaction _ functionSignature _ =>
    (Token.decode functionSignature).bind Token.Call.transferred?
  | .permit _ _ value _ _ => some value

/-- **The amount encoded in calldata.** -/
def Token.amount? (data : List UInt8) : Option (BitVec 256) :=
  (Token.decode data).bind Token.Call.amount?

/-- The calldata of a collection asks for the amount it was built with. -/
theorem amount_of_calldata {ε : Type} {keccak256 : List UInt8 → BitVec 256}
    {signDigest : String → String → BitVec 256 → Except ε TypedSignature}
    {strategy : CollectionStrategyConfig} {job : CollectionJob} {amount : RawAmount} {now : UInt64}
    {data : List UInt8}
    (h : buildCollectionCalldata keccak256 signDigest strategy job amount now = .ok data) :
    Token.amount? data = some amount := by
  obtain ⟨sig, hdecode, -⟩ := buildCollectionCalldata_eq_ok h
  unfold Token.amount?
  rw [hdecode, Option.bind_some]
  cases strategy with
  | polygonMetaTx tokenName tokenVersion relayer =>
    have hinner := decode_erc20TransferData job.collection.toAddress amount []
    rw [List.append_nil] at hinner
    simp only [CollectionStrategyConfig.call, Token.Call.amount?]
    rw [hinner]
    rfl
  | _ => rfl

/-! ## The collector with its calldata -/

/-- The collector, with the calldata each worker signed last and that of every
stored transaction. -/
structure SigningState where
  base : CollectorState
  held : ℕ → List UInt8
  calldata : List (Uuid × List UInt8)

/-- A step of the collector, with the clock of the worker and the answers of
the signer, should it sign. -/
structure SigningAction where
  action : CollectorAction
  clock : UInt64
  signDigest : String → String → BitVec 256 → Except String TypedSignature

/-- The transactions a step has stored. -/
def CollectorState.storedSince (s t : CollectorState) : List Uuid :=
  (t.history.stored.drop s.history.stored.length).map (fun p => p.2.id)

/-- The job and the amount a first transaction is stored for. -/
def CollectorState.storing? (s : CollectorState) :
    CollectorAction → Option (CollectionJob × RawAmount)
  | .worker w .store =>
    match s.pc w with
    | .signed job amount _ => some (job, amount)
    | _ => none
  | _ => none

namespace SigningState

/-- What the worker that takes a step signed last. -/
def heldBy (s : SigningState) : CollectorAction → List UInt8
  | .worker w _ => s.held w
  | _ => []

variable (keccak256 : List UInt8 → BitVec 256) (cfg : ℕ → CollectorConfig)

/-- **One step.** -/
def step (s : SigningState) (a : SigningAction) : Option SigningState :=
  match s.base.signing? a.action with
  | some (w, job, amount) =>
    match buildCollectionCalldata keccak256 a.signDigest (cfg w).strategy job amount a.clock with
    | .error _ => none
    | .ok data =>
      (s.base.step cfg a.action).map (fun t => ⟨t, Function.update s.held w data, s.calldata⟩)
  | none =>
    (s.base.step cfg a.action).map (fun t =>
      ⟨t, s.held, s.calldata ++ (s.base.storedSince t).map (fun i => (i, s.heldBy a.action))⟩)

/-- Nothing has happened and nothing is signed. -/
structure Initial (s : SigningState) : Prop where
  base : s.base.Initial
  calldata : s.calldata = []

/-- The calldata of a stored transaction. -/
def calldataOf (s : SigningState) (txId : Uuid) : Option (List UInt8) :=
  (s.calldata.find? (fun p => decide (p.1 = txId))).map Prod.snd

/-- **The recorded amount is the signed one**: a collection with a transaction
has an amount, and the transaction asks for it. -/
def RecordsSignedAmounts (s : SigningState) : Prop :=
  ∀ c ∈ s.base.db.collections, ∀ i, c.outboundTxId = some i →
    ∃ amount, c.amountRaw = some amount ∧ (s.calldataOf i).bind Token.amount? = some amount

/-- **No other amount is on record**: a worker that stores a first transaction
finds its collection still queued, or with the amount it signed. -/
def StoresItsAmount (s : SigningState) (a : SigningAction) : Prop :=
  ∀ p ∈ s.base.storing? a.action, ∀ c ∈ s.base.db.collections, c.id = p.1.collection.id →
    c.status = .queued ∨ c.amountRaw = some p.2

instance (s : SigningState) (a : SigningAction) : Decidable (s.StoresItsAmount a) :=
  inferInstanceAs (Decidable (∀ p ∈ s.base.storing? a.action, ∀ c ∈ s.base.db.collections,
    c.id = p.1.collection.id → c.status = .queued ∨ c.amountRaw = some p.2))

end SigningState

/-! ## What happens to amounts -/

/-- **An update that keeps amounts**: no collection is queued again, a queued one
keeps its amount, and an amount on record stays. -/
structure KeepsAmount (f : CollectionRecord → CollectionRecord) : Prop where
  id : ∀ c, (f c).id = c.id
  queued : ∀ c, (f c).status = .queued → c.status = .queued ∧ (f c).amountRaw = c.amountRaw
  amount : ∀ c amount, c.amountRaw = some amount → (f c).amountRaw = some amount

/-- What the amounts of the collections may come to: every collection was there
before and kept its amount, or is new. -/
def AmountsKept (rows rows' : List CollectionRecord) : Prop :=
  ∀ d' ∈ rows', (∀ d ∈ rows, d.id ≠ d'.id) ∨ ∃ d ∈ rows, d.id = d'.id
    ∧ (d'.status = .queued → d.status = .queued ∧ d'.amountRaw = d.amountRaw)
    ∧ ∀ amount, d.amountRaw = some amount → d'.amountRaw = some amount

theorem AmountsKept.refl (rows : List CollectionRecord) : AmountsKept rows rows :=
  fun d hd => Or.inr ⟨d, hd, rfl, fun h => ⟨h, rfl⟩, fun _ h => h⟩

theorem KeepsAmount.kept {f : CollectionRecord → CollectionRecord} (hf : KeepsAmount f)
    (p : CollectionRecord → Bool) (rows : List CollectionRecord) :
    AmountsKept rows (updateWhere p f rows) := by
  intro d' hd'
  obtain ⟨d, hd, rfl⟩ := List.mem_map.mp hd'
  refine Or.inr ⟨d, hd, ?_⟩
  by_cases hp : p d = true
  · rw [if_pos hp]
    exact ⟨(hf.id d).symm, hf.queued d, hf.amount d⟩
  · rw [if_neg hp]
    exact ⟨rfl, fun h => ⟨h, rfl⟩, fun _ h => h⟩

/-- Nothing queued and no amount changed. -/
theorem keepsAmount_of_eq {f : CollectionRecord → CollectionRecord} (hid : ∀ c, (f c).id = c.id)
    (hqueued : ∀ c, (f c).status = .queued → c.status = .queued)
    (hamount : ∀ c, (f c).amountRaw = c.amountRaw) : KeepsAmount f :=
  ⟨hid, fun c h => ⟨hqueued c h, hamount c⟩, fun c _ h => (hamount c).trans h⟩

namespace CollectorState

variable {cfg : CollectorConfig} {s : CollectorState} {w : ℕ} {pc : CollectorPc}
  {a : WorkerAction} {r : WorkerResult}

/-- A mark keeps amounts when its update of collections does. -/
theorem amountsKept_of_mark {db db' : CollectorDb} {txId : Uuid} {able : String}
    {setOutbound : OutboundTxRecord → OutboundTxRecord} {starts : CollectionRecordStatus → Bool}
    {setCollection : CollectionRecord → CollectionRecord} {row : OutboundTxRecord}
    (h : db.markOutbound txId able setOutbound starts setCollection = .ok (db', row))
    (hset : KeepsAmount setCollection) : AmountsKept db.collections db'.collections := by
  obtain ⟨-, -, rfl⟩ := CollectorDb.markOutbound_eq_ok h
  exact hset.kept _ _

/-- A worker keeps the amounts on record. -/
theorem amountsKept_of_move (h : WorkerMove cfg s w pc a r) :
    AmountsKept s.db.collections r.db.collections := by
  cases h with
  | quiet _ _ _ _ => exact AmountsKept.refl _
  | sent _ _ => exact AmountsKept.refl _
  | leased _ hf _ _ _ _ =>
    exact (keepsAmount_of_eq hf.id (fun c h => (hf.status c).symm.trans h) hf.amountRaw).kept _ _
  | reserved _ _ _ => exact AmountsKept.refl _
  | stored _ _ hx =>
    obtain ⟨-, -, -, rfl⟩ := CollectorDb.insertSignedCollectTx_eq_ok hx
    refine KeepsAmount.kept ?_ _ _
    refine ⟨fun _ => rfl, fun c h => (by cases h), fun c amount h => ?_⟩
    show c.amountRaw.or _ = some amount
    rw [h, Option.some_or]
  | replaced _ _ hx =>
    obtain ⟨-, -, -, rfl⟩ := CollectorDb.replaceSignedTx_eq_ok hx
    refine KeepsAmount.kept ?_ _ _
    exact keepsAmount_of_eq (fun _ => rfl) (fun _ h => by cases h) (fun _ => rfl)
  | markedBroadcast _ hx =>
    exact amountsKept_of_mark hx
      (keepsAmount_of_eq (fun _ => rfl) (fun _ h => by cases h) (fun _ => rfl))
  | confirmed _ hx =>
    exact amountsKept_of_mark (CollectorDb.markConfirmed_eq_ok.mp hx).2
      (keepsAmount_of_eq (fun _ => rfl) (fun _ h => by cases h) (fun _ => rfl))
  | failed _ hx =>
    exact amountsKept_of_mark hx
      (keepsAmount_of_eq (fun _ => rfl) (fun _ h => by cases h) (fun _ => rfl))

/-- So does every step. -/
theorem amountsKept_of_step {cfg : ℕ → CollectorConfig} {t : CollectorState} {a : CollectorAction}
    (h : step cfg s a = some t) : AmountsKept s.db.collections t.db.collections := by
  obtain ⟨command, hnew, -, rfl⟩ | hsur | ⟨w, b, r, -, -, hm, rfl⟩ := step_cases h
  · intro d' hd'
    rcases List.mem_append.mp hd' with hold | hone
    · exact AmountsKept.refl _ d' hold
    · obtain rfl := List.mem_singleton.mp hone
      exact Or.inl hnew
  · obtain ⟨orders, hdb⟩ := hsur.db
    rw [hdb]
    exact AmountsKept.refl _
  · exact amountsKept_of_move hm

end CollectorState

/-! ## What a worker knows of amounts -/

/-- The collection of a job has the job's amount for as long as it is queued. -/
def FromQueue (rows : List CollectionRecord) (job : CollectionJob) : Prop :=
  ∀ d ∈ rows, d.id = job.collection.id → d.status = .queued →
    d.amountRaw = job.collection.amountRaw

/-- A collection has this amount. -/
def Settled (rows : List CollectionRecord) (collectionId : Uuid) (amount : RawAmount) : Prop :=
  ∀ d ∈ rows, d.id = collectionId → d.amountRaw = some amount

/-- **What a worker's local variables say of amounts**, and what it has signed. -/
def CollectorPc.AmountsOf (rows : List CollectionRecord) (held : List UInt8) : CollectorPc → Prop
  | .preparing job => FromQueue rows job
  | .quoted job _ amount _ | .reserved job _ amount _ _ =>
    FromQueue rows job ∧ job.collection.amountRaw.getD amount = amount
  | .signed job amount _ =>
    (FromQueue rows job ∧ job.collection.amountRaw.getD amount = amount)
      ∧ Token.amount? held = some amount
  | .replacing c _ job =>
    ∀ amount, job.collection.amountRaw = some amount → Settled rows c amount
  | .planned c _ _ plan => Settled rows c plan.amount
  | .replacementSigned c _ _ =>
    ∃ amount, Token.amount? held = some amount ∧ Settled rows c amount
  | _ => True

section Kept

variable {rows rows' : List CollectionRecord}

theorem FromQueue.kept {job : CollectionJob} (h : FromQueue rows job)
    (hk : AmountsKept rows rows') (hknown : ∃ d ∈ rows, d.id = job.collection.id) :
    FromQueue rows' job := by
  intro d' hd' hid hq
  rcases hk d' hd' with hnew | ⟨d, hd, hdid, hqueued, -⟩
  · obtain ⟨d, hd, hdid⟩ := hknown
    exact absurd (hdid.trans hid.symm) (hnew d hd)
  · obtain ⟨hdq, hamount⟩ := hqueued hq
    rw [hamount]
    exact h d hd (hdid.trans hid) hdq

theorem Settled.kept {c : Uuid} {amount : RawAmount} (h : Settled rows c amount)
    (hk : AmountsKept rows rows') (hknown : ∃ d ∈ rows, d.id = c) : Settled rows' c amount := by
  intro d' hd' hid
  rcases hk d' hd' with hnew | ⟨d, hd, hdid, -, hamount⟩
  · obtain ⟨d, hd, hdid⟩ := hknown
    exact absurd (hdid.trans hid.symm) (hnew d hd)
  · exact hamount amount (h d hd (hdid.trans hid))

/-- A worker that takes no step knows what it knew. -/
theorem CollectorPc.AmountsOf.kept {held : List UInt8} {pc : CollectorPc}
    (h : pc.AmountsOf rows held) (hk : AmountsKept rows rows')
    (hjob : ∀ job, pc.job? = some job → ∃ d ∈ rows, d.id = job.collection.id)
    (hclaim : ∀ p, pc.claimed? = some p → ∃ d ∈ rows, d.id = p.1) : pc.AmountsOf rows' held := by
  cases pc with
  | preparing job => exact FromQueue.kept h hk (hjob job rfl)
  | quoted job payer amount fees => exact ⟨h.1.kept hk (hjob job rfl), h.2⟩
  | reserved job payer amount fees nonce => exact ⟨h.1.kept hk (hjob job rfl), h.2⟩
  | signed job amount tx => exact ⟨⟨h.1.1.kept hk (hjob job rfl), h.1.2⟩, h.2⟩
  | replacing c tx job => exact fun amount ha => (h amount ha).kept hk (hclaim (c, tx) rfl)
  | planned c tx job plan => exact Settled.kept h hk (hclaim (c, tx) rfl)
  | replacementSigned c tx replacement =>
    obtain ⟨amount, hheld, hs⟩ := h
    exact ⟨amount, hheld, hs.kept hk (hclaim (c, tx) rfl)⟩
  | _ => trivial

end Kept

namespace CollectorState

variable {cfg : CollectorConfig} {s : CollectorState} {w : ℕ} {pc : CollectorPc}
  {a : WorkerAction} {r : WorkerResult}

/-- What a worker knows after a fallible step without a transaction. -/
theorem amountsOf_of_proceed {ε β : Type} {x : Except ε β} {next : β → CollectorPc}
    {held : List UInt8} (h : s.proceed x next = some r)
    (hok : ∀ b, x = .ok b → (next b).AmountsOf s.db.collections held) :
    r.pc.AmountsOf r.db.collections held :=
  after_proceed (Q := fun r => r.pc.AmountsOf r.db.collections held) h trivial hok

/-- What a worker knows after a transaction. -/
theorem amountsOf_of_commit {ε β : Type} {x : Except ε (CollectorDb × β)}
    {record : β → CollectorHistory} {next : β → CollectorPc} {held : List UInt8}
    (h : s.commit x record next = some r)
    (hok : ∀ db b, x = .ok (db, b) → (next b).AmountsOf db.collections held) :
    r.pc.AmountsOf r.db.collections held :=
  after_commit (Q := fun r => r.pc.AmountsOf r.db.collections held) h trivial hok

/-- A claimed job has the amount of its collection. -/
theorem fromQueue_of_claimJob {db : CollectorDb} {j : Option CollectionJob} {job : CollectionJob}
    (hids : (s.db.collections.map CollectionRecord.id).Nodup)
    (hx : s.db.claimCollectionJob s.now cfg.claimLeaseSeconds cfg.workerId cfg.chainId
      cfg.tokenAddress = .ok (db, j)) (hj : j = some job) : FromQueue db.collections job := by
  obtain ⟨-, rfl⟩ | ⟨c, hc, -, -, ⟨j', hj', hcol⟩, rfl⟩ := CollectorDb.claimCollectionJob_cases hx
  · cases hj
  · obtain rfl := Option.some.inj (hj'.symm.trans hj)
    intro d' hd' hid _
    obtain ⟨d, hd, rfl⟩ := List.mem_map.mp hd'
    have hdc : d.id = c.id := by
      rw [hcol] at hid
      split at hid <;> exact hid
    obtain rfl := List.inj_on_of_nodup_map hids hd hc hdc
    rw [hcol, if_pos (decide_eq_true rfl)]

/-- The job a replacement goes on with has the amount of its collection. -/
theorem settled_of_eligibleJob {c : Uuid} {tx : OutboundTxRecord} {job : CollectionJob}
    (hids : (s.db.collections.map CollectionRecord.id).Nodup)
    (h : s.eligibleJob c tx = .ok job) {amount : RawAmount}
    (hamount : job.collection.amountRaw = some amount) : Settled s.db.collections c amount := by
  obtain ⟨row, hrow, hid, hcol⟩ := row_of_eligibleJob h
  intro d hd hdc
  obtain rfl := List.inj_on_of_nodup_map hids hd hrow (hdc.trans hid.symm)
  rw [← hcol]
  exact hamount

/-- A quote settles on the amount of the job, if it has one. -/
theorem getD_of_resolve {c : CollectionRecord} {balance amount : RawAmount}
    (h : resolveCollectionAmount c balance = .ok amount) : c.amountRaw.getD amount = amount := by
  cases hc : c.amountRaw with
  | none => rfl
  | some fixed =>
    unfold resolveCollectionAmount at h
    rw [hc] at h
    dsimp only at h
    split at h
    · cases h
    · obtain ⟨-, h⟩ := ensure_bind_eq_ok.mp h
      exact Except.pure_eq_ok.mp h

/-- A plan is for the amount of the job. -/
theorem amount_of_replacementPlan {strategy : CollectionStrategyConfig} {fees : CollectionFees}
    {c : CollectionRecord} {tx : OutboundTxRecord} {estimate : Eip1559FeeEstimate}
    {plan : CollectionTxPlan} (h : replacementPlan strategy fees c tx estimate = .ok plan) :
    c.amountRaw = some plan.amount := by
  unfold replacementPlan at h
  obtain ⟨amount, hamount, h⟩ := Except.bind_eq_ok.mp h
  obtain ⟨_, -, h⟩ := Except.bind_eq_ok.mp h
  obtain ⟨_, -, h⟩ := Except.bind_eq_ok.mp h
  obtain ⟨-, h⟩ := ensure_bind_eq_ok.mp h
  obtain ⟨_, -, h⟩ := Except.bind_eq_ok.mp h
  obtain rfl := Except.pure_eq_ok.mp h
  exact orError_eq_ok.mp hamount

/-- **What a worker knows of amounts after a step.** Only a signature changes
what it holds. -/
theorem amountsOf_of_workerStep {held held' : List UInt8}
    (hids : (s.db.collections.map CollectionRecord.id).Nodup)
    (hpc : pc.AmountsOf s.db.collections held) (h : workerStep cfg s w pc a = some r)
    (hsign : ∀ job payer amount fees nonce signed id,
      pc = .reserved job payer amount fees nonce → a = .sign signed id →
        Token.amount? held' = some amount)
    (hreplace : ∀ c tx job plan signed id, pc = .planned c tx job plan →
      a = .signReplacement signed id → Token.amount? held' = some plan.amount) :
    r.pc.AmountsOf r.db.collections held' := by
  unfold workerStep at h
  split at h
  case h_1 | h_2 =>
    refine amountsOf_of_commit h (fun db x _ => ?_)
    cases x <;> trivial
  case h_3 =>
    refine amountsOf_of_commit h (fun db x hx => ?_)
    cases x with
    | none => trivial
    | some j => exact fromQueue_of_claimJob hids hx rfl
  case h_4 c tx answer =>
    obtain rfl := Option.some.inj h
    dsimp only
    split <;> trivial
  case h_6 =>
    obtain rfl := Option.some.inj h
    dsimp only
    unfold afterReceipt
    repeat' split
    all_goals trivial
  case h_7 =>
    obtain rfl := Option.some.inj h
    dsimp only
    split <;> trivial
  case h_8 =>
    obtain rfl := Option.some.inj h
    dsimp only
    unfold afterBlock
    repeat' split
    all_goals trivial
  case h_11 =>
    exact amountsOf_of_proceed h (fun j hj amount hamount => settled_of_eligibleJob hids hj hamount)
  case h_12 c tx job estimate =>
    exact amountsOf_of_proceed h (fun plan hplan => hpc _ (amount_of_replacementPlan hplan))
  case h_13 c tx job plan signed id =>
    exact amountsOf_of_proceed h (fun _ _ =>
      ⟨plan.amount, hreplace c tx job plan signed id rfl rfl, hpc⟩)
  case h_15 job balance estimate =>
    exact amountsOf_of_proceed h (fun amount hamount => ⟨hpc, getD_of_resolve hamount⟩)
  case h_16 job payer amount fees pendingNonce =>
    refine amountsOf_of_commit h (fun db x hx => ?_)
    obtain ⟨rfl, -, -⟩ := CollectorDb.reserveNonce_eq_ok hx
    cases x with
    | error e => trivial
    | ok n => exact hpc
  case h_17 job payer amount fees nonce signed id =>
    exact amountsOf_of_proceed h (fun _ _ =>
      ⟨hpc, hsign job payer amount fees nonce signed id rfl rfl⟩)
  case h_5 | h_9 | h_10 | h_14 | h_18 => exact amountsOf_of_commit h (fun _ _ _ => trivial)
  case h_19 =>
    obtain rfl := Option.some.inj h
    trivial
  case h_20 => cases h

end CollectorState

namespace CollectorState

variable {cfg : ℕ → CollectorConfig} {s t : CollectorState} {a : CollectorAction}

/-- A worker signs for itself. -/
theorem worker_of_signing {w : ℕ} {job : CollectionJob} {amount : RawAmount}
    (h : s.signing? a = some (w, job, amount)) : ∃ b, a = .worker w b := by
  unfold signing? at h
  split at h
  · split at h
    · simp only [Option.some.injEq, Prod.mk.injEq] at h
      exact ⟨_, by rw [h.1]⟩
    · cases h
  · split at h
    · simp only [Option.some.injEq, Prod.mk.injEq] at h
      exact ⟨_, by rw [h.1]⟩
    · cases h
  · cases h

/-- A fallible step without a transaction leaves the database and the history. -/
theorem same_of_proceed {ε β : Type} {x : Except ε β} {next : β → CollectorPc} {r : WorkerResult}
    (h : s.proceed x next = some r) : r.db = s.db ∧ r.history = s.history :=
  after_proceed (Q := fun r => r.db = s.db ∧ r.history = s.history) h ⟨rfl, rfl⟩
    (fun _ _ => ⟨rfl, rfl⟩)

/-- A signature changes neither the database nor the history. -/
theorem same_of_signing {w : ℕ} {job : CollectionJob} {amount : RawAmount}
    (hsign : s.signing? a = some (w, job, amount)) (h : step cfg s a = some t) :
    t.db = s.db ∧ t.history = s.history := by
  unfold signing? at hsign
  split at hsign
  all_goals first
    | cases hsign
    | (split at hsign
       · rename_i hpc
         obtain ⟨r, hr, rfl⟩ := Option.map_eq_some_iff.mp h
         rw [hpc] at hr
         exact same_of_proceed hr
       · cases hsign)

/-- What is stored stays stored. -/
theorem stored_prefix (h : step cfg s a = some t) : s.history.stored <+: t.history.stored := by
  obtain ⟨command, -, -, rfl⟩ | hsur | ⟨w, b, r, -, -, hm, rfl⟩ := step_cases h
  · exact List.prefix_refl _
  · exact hsur.history.symm ▸ List.prefix_refl _
  · cases hm with
    | stored _ _ _ => exact List.prefix_append _ _
    | replaced _ _ _ => exact List.prefix_append _ _
    | _ => exact List.prefix_refl _

/-- What is stored is what was, and what is since. -/
theorem stored_eq_append (h : step cfg s a = some t) :
    t.history.stored.map (fun p => p.2.id)
      = s.history.stored.map (fun p => p.2.id) ++ s.storedSince t := by
  obtain ⟨more, hmore⟩ := stored_prefix h
  unfold storedSince
  rw [← hmore, List.map_append, List.drop_left]

end CollectorState

/-! ## Runs -/

namespace SigningState

variable {keccak256 : List UInt8 → BitVec 256} {cfg : ℕ → CollectorConfig}
  {s t : SigningState} {a : SigningAction}

/-- A step is one of the collector. It signs, or keeps the calldata of what it
has stored. -/
theorem step_cases (h : step keccak256 cfg s a = some t) :
    s.base.step cfg a.action = some t.base
      ∧ ((∃ w job amount data, s.base.signing? a.action = some (w, job, amount)
          ∧ Token.amount? data = some amount
          ∧ t.held = Function.update s.held w data ∧ t.calldata = s.calldata)
        ∨ (s.base.signing? a.action = none ∧ t.held = s.held
          ∧ t.calldata = s.calldata
            ++ (s.base.storedSince t.base).map (fun i => (i, s.heldBy a.action)))) := by
  unfold step at h
  split at h
  · rename_i w job amount hsign
    split at h
    · cases h
    · rename_i data hdata
      obtain ⟨u, hu, rfl⟩ := Option.map_eq_some_iff.mp h
      exact ⟨hu, Or.inl ⟨w, job, amount, data, hsign, amount_of_calldata hdata, rfl, rfl⟩⟩
  · rename_i hsign
    obtain ⟨u, hu, rfl⟩ := Option.map_eq_some_iff.mp h
    exact ⟨hu, Or.inr ⟨hsign, rfl, rfl⟩⟩

/-- **The invariant.** -/
structure SigningInv (s : SigningState) : Prop where
  sound : s.base.Sound
  jobs : s.base.JobsOfRows
  keys : s.calldata.map Prod.fst = s.base.history.stored.map (fun p => p.2.id)
  workers : ∀ w, (s.base.pc w).AmountsOf s.base.db.collections (s.held w)
  records : s.RecordsSignedAmounts

/-- It holds before anything happened. -/
theorem Initial.inv (h : s.Initial) : s.SigningInv := by
  refine ⟨h.base.sound, h.base.jobsOfRows, ?_, fun w => ?_, fun c hc => ?_⟩
  · rw [h.calldata, h.base.history]
    rfl
  · rw [h.base.idle w]
    trivial
  · rw [h.base.collections] at hc
    cases hc

/-- The calldata of a stored transaction is looked up past what is added. -/
theorem calldataOf_append {i : Uuid} {data : List UInt8} {more : List (Uuid × List UInt8)}
    (hmore : t.calldata = s.calldata ++ more) (h : s.calldataOf i = some data) :
    t.calldataOf i = some data := by
  unfold calldataOf at h ⊢
  obtain ⟨p, hp, rfl⟩ := Option.map_eq_some_iff.mp h
  rw [hmore, find?_append_of_some hp]
  rfl

/-- Rows that keep their transaction and their amount, or have no transaction,
keep the property. -/
theorem RecordsSignedAmounts.of_rows (h : s.RecordsSignedAmounts)
    {more : List (Uuid × List UInt8)} (hmore : t.calldata = s.calldata ++ more)
    (hrows : ∀ c' ∈ t.base.db.collections, ∀ i, c'.outboundTxId = some i →
      (∃ c ∈ s.base.db.collections, c.outboundTxId = some i ∧ c'.amountRaw = c.amountRaw)
        ∨ ∃ amount, c'.amountRaw = some amount
          ∧ (t.calldataOf i).bind Token.amount? = some amount) : t.RecordsSignedAmounts := by
  intro c' hc' i hi
  rcases hrows c' hc' i hi with ⟨c, hc, hci, hamount⟩ | hnow
  · obtain ⟨amount, hrec, hdata⟩ := h c hc i hci
    obtain ⟨data, hof, hdata⟩ := Option.bind_eq_some_iff.mp hdata
    refine ⟨amount, hamount.trans hrec, ?_⟩
    rw [calldataOf_append hmore hof]
    exact hdata
  · exact hnow

/-- The identifiers of the calldata are those of the stored transactions. -/
theorem SigningInv.keys_step (hs : s.SigningInv) (h : step keccak256 cfg s a = some t) :
    t.calldata.map Prod.fst = t.base.history.stored.map (fun p => p.2.id) := by
  obtain ⟨hbase, ⟨w, job, amount, data, hsign, -, -, hsame⟩ | ⟨-, -, hmore⟩⟩ := step_cases h
  · rw [hsame, (CollectorState.same_of_signing hsign hbase).2]
    exact hs.keys
  · rw [hmore, List.map_append, hs.keys, List.map_map, CollectorState.stored_eq_append hbase]
    congr 1
    exact List.map_id _

/-- The collection of a claim is in the table. -/
theorem SigningInv.known_of_claim (hs : s.SigningInv) {w : ℕ} {p : Uuid × OutboundTxRecord}
    (hp : (s.base.pc w).claimed? = some p) : ∃ d ∈ s.base.db.collections, d.id = p.1 := by
  obtain ⟨o, ho, -⟩ := hs.sound.claims w p hp
  exact hs.sound.store.known (p.1, o) ho

/-- The collection of a job is in the table. -/
theorem SigningInv.known_of_job (hs : s.SigningInv) {w : ℕ} {job : CollectionJob}
    (hjob : (s.base.pc w).job? = some job) :
    ∃ d ∈ s.base.db.collections, d.id = job.collection.id := by
  obtain ⟨d, hd, heq⟩ := List.mem_map.mp (hs.jobs w job hjob)
  exact ⟨d, hd, (Prod.mk.inj heq).1⟩

/-- What the workers know stays true. -/
theorem SigningInv.workers_step (hs : s.SigningInv) (h : step keccak256 cfg s a = some t) (v : ℕ) :
    (t.base.pc v).AmountsOf t.base.db.collections (t.held v) := by
  obtain ⟨hbase, hdata⟩ := step_cases h
  by_cases hv : ∃ b, a.action = .worker v b
  · -- the worker itself has taken the step
    obtain ⟨b, hb⟩ := hv
    rw [hb] at hbase hdata
    obtain ⟨r, hr, ht⟩ := Option.map_eq_some_iff.mp hbase
    have hpc : t.base.pc v = r.pc := by
      rw [← ht]
      exact Function.update_self v r.pc s.base.pc
    have hdb : t.base.db = r.db := by rw [← ht]; rfl
    have hheld : ∀ job amount, s.base.signing? (.worker v b) = some (v, job, amount) →
        Token.amount? (t.held v) = some amount := by
      intro job amount hsign
      rcases hdata with ⟨w, job', amount', data, hsign', hamount, hupd, -⟩ | ⟨hnone, -⟩
      · simp only [hsign, Option.some.injEq, Prod.mk.injEq] at hsign'
        obtain ⟨rfl, -, rfl⟩ := hsign'
        rw [hupd, Function.update_self]
        exact hamount
      · rw [hsign] at hnone
        cases hnone
    rw [hpc, hdb]
    refine CollectorState.amountsOf_of_workerStep hs.sound.store.collection_ids (hs.workers v) hr
      (fun job payer amount fees nonce signed id hpc' hb' => ?_)
      (fun c tx job plan signed id hpc' hb' => ?_)
    · refine hheld job amount ?_
      rw [hb']
      dsimp only [CollectorState.signing?]
      rw [hpc']
    · refine hheld job plan.amount ?_
      rw [hb']
      dsimp only [CollectorState.signing?]
      rw [hpc']
  · have hother : ∀ w b, .worker w b ∈ [a.action] → w ≠ v := by
      rintro w b hmem rfl
      exact hv ⟨b, (List.mem_singleton.mp hmem).symm⟩
    have hpc : t.base.pc v = s.base.pc v :=
      CollectorState.pc_of_run hother (runSteps_cons_eq_some.mpr ⟨t.base, hbase, rfl⟩)
    have hheld : t.held v = s.held v := by
      rcases hdata with ⟨w, job, amount, data, hsign, -, hupd, -⟩ | ⟨-, hsame, -⟩
      · obtain ⟨b, hb⟩ := CollectorState.worker_of_signing hsign
        rw [hupd, Function.update_of_ne]
        rintro rfl
        exact hv ⟨b, hb⟩
      · rw [hsame]
    rw [hpc, hheld]
    exact (hs.workers v).kept (CollectorState.amountsKept_of_step hbase)
      (fun job hjob => hs.known_of_job hjob) (fun p hp => hs.known_of_claim hp)

/-- A transaction that was not there has no calldata. -/
theorem SigningInv.find?_of_fresh (hs : s.SigningInv) {i : Uuid}
    (h : ∀ o ∈ s.base.db.outboundTransactions, o.id ≠ i) :
    s.calldata.find? (fun p => decide (p.1 = i)) = none := by
  refine List.find?_eq_none.mpr (fun p hp hpi => ?_)
  have hkey : p.1 ∈ s.base.history.stored.map (fun q => q.2.id) := by
    rw [← hs.keys]
    exact List.mem_map_of_mem hp
  obtain ⟨q, hq, hqi⟩ := List.mem_map.mp hkey
  obtain ⟨o, ho, hcore⟩ := hs.sound.store.row_of_stored hq
  refine h o ho ?_
  rw [← of_decide_eq_true hpi, ← hqi]
  exact congrArg OutboundCore.id hcore

/-- The calldata of the transaction a worker has just stored is what it held. -/
theorem SigningInv.calldataOf_stored (hs : s.SigningInv) {i : Uuid} {w : ℕ} {b : WorkerAction}
    (hnew : ∀ o ∈ s.base.db.outboundTransactions, o.id ≠ i)
    (hsince : s.base.storedSince t.base = [i])
    (hmore : t.calldata = s.calldata
      ++ (s.base.storedSince t.base).map (fun i => (i, s.heldBy (.worker w b)))) :
    t.calldataOf i = some (s.held w) := by
  unfold calldataOf
  rw [hmore, hsince, List.find?_append, hs.find?_of_fresh hnew, Option.none_or]
  simp [heldBy]

/-- The one transaction a step has stored. -/
theorem storedSince_eq {u v : CollectorState} {c : Uuid} {row : OutboundTxRecord}
    (h : v.history = u.recordStored c row) : u.storedSince v = [row.id] := by
  unfold CollectorState.storedSince
  rw [h]
  show ((u.history.stored ++ [(c, row)]).drop u.history.stored.length).map _ = _
  rw [List.drop_left]
  rfl

/-- A step that does not sign keeps the calldata of what it has stored. -/
theorem calldata_of_unsigned {w : ℕ} {b : WorkerAction} {Q : Prop}
    (haction : a.action = .worker w b) (hnone : s.base.signing? (.worker w b) = none)
    (h : (∃ w job amount data, s.base.signing? a.action = some (w, job, amount)
          ∧ Token.amount? data = some amount
          ∧ t.held = Function.update s.held w data ∧ t.calldata = s.calldata)
        ∨ (s.base.signing? a.action = none ∧ Q
          ∧ t.calldata = s.calldata
            ++ (s.base.storedSince t.base).map (fun i => (i, s.heldBy a.action)))) :
    t.calldata = s.calldata
      ++ (s.base.storedSince t.base).map (fun i => (i, s.heldBy (.worker w b))) := by
  rw [haction] at h
  rcases h with ⟨_, _, _, _, hsign, -⟩ | ⟨-, -, hmore⟩
  · rw [hnone] at hsign
    cases hsign
  · exact hmore

/-- An update of collections that keeps transactions and amounts. -/
theorem rows_of_updateWhere {f : CollectionRecord → CollectionRecord}
    (htx : ∀ c, (f c).outboundTxId = c.outboundTxId) (hamount : ∀ c, (f c).amountRaw = c.amountRaw)
    {p : CollectionRecord → Bool} {rows : List CollectionRecord} {c' : CollectionRecord}
    (hc' : c' ∈ updateWhere p f rows) {i : Uuid} (hi : c'.outboundTxId = some i) :
    ∃ c ∈ rows, c.outboundTxId = some i ∧ c'.amountRaw = c.amountRaw := by
  obtain ⟨c, hc, rfl⟩ := List.mem_map.mp hc'
  refine ⟨c, hc, ?_⟩
  by_cases hp : p c = true
  · rw [if_pos hp] at hi ⊢
    exact ⟨(htx c).symm.trans hi, hamount c⟩
  · rw [if_neg hp] at hi ⊢
    exact ⟨hi, rfl⟩

/-- A mark of a transaction keeps transactions and amounts of collections. -/
theorem rows_of_mark {db db' : CollectorDb} {txId : Uuid} {able : String}
    {setOutbound : OutboundTxRecord → OutboundTxRecord} {starts : CollectionRecordStatus → Bool}
    {setCollection : CollectionRecord → CollectionRecord} {row : OutboundTxRecord}
    (h : db.markOutbound txId able setOutbound starts setCollection = .ok (db', row))
    (htx : ∀ c, (setCollection c).outboundTxId = c.outboundTxId)
    (hamount : ∀ c, (setCollection c).amountRaw = c.amountRaw) {c' : CollectionRecord}
    (hc' : c' ∈ db'.collections) {i : Uuid} (hi : c'.outboundTxId = some i) :
    ∃ c ∈ db.collections, c.outboundTxId = some i ∧ c'.amountRaw = c.amountRaw := by
  obtain ⟨-, -, rfl⟩ := CollectorDb.markOutbound_eq_ok h
  exact rows_of_updateWhere htx hamount hc' hi

/-- **A first transaction is attached to an amount that is its own**, when no
other is on record. -/
theorem SigningInv.records_stored (hs : s.SigningInv) (hmeet : s.StoresItsAmount a) {w : ℕ}
    {job : CollectionJob} {amount : RawAmount} {tx : NewSignedOutboundTx} {db : CollectorDb}
    {row : OutboundTxRecord} (haction : a.action = .worker w .store)
    (hpc : s.base.pc w = .signed job amount tx)
    (hx : s.base.db.insertSignedCollectTx s.base.now job.collection.id tx amount = .ok (db, row))
    (hdata : t.calldataOf tx.id = some (s.held w)) {c' : CollectionRecord}
    (hc' : c' ∈ db.collections) {i : Uuid} (hi : c'.outboundTxId = some i) :
    (∃ c ∈ s.base.db.collections, c.outboundTxId = some i ∧ c'.amountRaw = c.amountRaw)
      ∨ ∃ amount, c'.amountRaw = some amount
        ∧ (t.calldataOf i).bind Token.amount? = some amount := by
  have hknows := hs.workers w
  rw [hpc] at hknows
  obtain ⟨⟨hqueue, hquoted⟩, hheld⟩ := hknows
  obtain ⟨-, -, -, rfl⟩ := CollectorDb.insertSignedCollectTx_eq_ok hx
  obtain ⟨c, hc, rfl⟩ := List.mem_map.mp hc'
  by_cases hsel : (decide (c.id = job.collection.id) && CollectorDb.isAttachable c.status) = true
  · rw [if_pos hsel] at hi ⊢
    obtain rfl := Option.some.inj hi
    rw [Bool.and_eq_true, decide_eq_true_eq] at hsel
    have hstoring : s.base.storing? a.action = some (job, amount) := by
      rw [haction]
      dsimp only [CollectorState.storing?]
      rw [hpc]
    refine Or.inr ⟨amount, ?_, by rw [hdata]; exact hheld⟩
    show c.amountRaw.or (some amount) = some amount
    rcases hmeet (job, amount) hstoring c hc hsel.1 with hstatus | hsame
    · rw [hqueue c hc hsel.1 hstatus]
      cases hjob : job.collection.amountRaw with
      | none => rfl
      | some fixed =>
        rw [hjob] at hquoted
        rw [Option.some_or]
        exact congrArg some hquoted
    · rw [hsame, Option.some_or]
  · rw [if_neg hsel] at hi ⊢
    exact Or.inl ⟨c, hc, hi, rfl⟩

/-- **A replacement asks for the amount on record.** -/
theorem SigningInv.records_replaced (hs : s.SigningInv) {w : ℕ} {c₀ : Uuid} {tx : OutboundTxRecord}
    {replacement : NewSignedOutboundTx} {db : CollectorDb} {row : OutboundTxRecord}
    (hpc : s.base.pc w = .replacementSigned c₀ tx replacement)
    (hx : s.base.db.replaceSignedTx s.base.now tx.id replacement = .ok (db, row))
    (hdata : t.calldataOf replacement.id = some (s.held w)) {c' : CollectionRecord}
    (hc' : c' ∈ db.collections) {i : Uuid} (hi : c'.outboundTxId = some i) :
    (∃ c ∈ s.base.db.collections, c.outboundTxId = some i ∧ c'.amountRaw = c.amountRaw)
      ∨ ∃ amount, c'.amountRaw = some amount
        ∧ (t.calldataOf i).bind Token.amount? = some amount := by
  have hknows := hs.workers w
  rw [hpc] at hknows
  obtain ⟨amount, hheld, hsettled⟩ := hknows
  obtain ⟨o, ho, hotx⟩ := hs.sound.claims w (c₀, tx) (by rw [hpc]; rfl)
  obtain ⟨-, -, -, rfl⟩ := CollectorDb.replaceSignedTx_eq_ok hx
  obtain ⟨c, hc, rfl⟩ := List.mem_map.mp hc'
  by_cases hsel : decide (c.outboundTxId = some tx.id) = true
  · rw [if_pos hsel] at hi ⊢
    obtain rfl := Option.some.inj hi
    -- the collection attached to the old transaction is the one it was stored for
    obtain ⟨o', ho', hotx'⟩ := hs.sound.store.attached c hc tx.id (of_decide_eq_true hsel)
    have hid : c.id = c₀ :=
      congrArg Prod.fst (hs.sound.store.eq_of_stored_id ho' ho (hotx'.trans hotx.symm))
    exact Or.inr ⟨amount, hsettled c hc hid, by rw [hdata]; exact hheld⟩
  · rw [if_neg hsel] at hi ⊢
    exact Or.inl ⟨c, hc, hi, rfl⟩

/-- A step that meets the condition keeps the recorded amounts right. -/
theorem SigningInv.records_step (hs : s.SigningInv) (hmeet : s.StoresItsAmount a)
    (h : step keccak256 cfg s a = some t) : t.RecordsSignedAmounts := by
  obtain ⟨hbase, hdata⟩ := step_cases h
  have hmore : ∃ more, t.calldata = s.calldata ++ more := by
    rcases hdata with ⟨_, _, _, _, -, -, -, hsame⟩ | ⟨-, -, hmore⟩
    · exact ⟨[], by rw [hsame, List.append_nil]⟩
    · exact ⟨_, hmore⟩
  obtain ⟨more, hmore⟩ := hmore
  refine hs.records.of_rows hmore (fun c' hc' i hi => ?_)
  obtain ⟨command, -, -, ht⟩ | hsur | ⟨w, b, r, haction, -, hm, ht⟩ :=
    CollectorState.step_cases hbase
  · rw [ht] at hc'
    rcases List.mem_append.mp hc' with hold | hnew
    · exact Or.inl ⟨c', hold, hi, rfl⟩
    · obtain rfl := List.mem_singleton.mp hnew
      cases hi
  · obtain ⟨orders, hdb⟩ := hsur.db
    rw [hdb] at hc'
    exact Or.inl ⟨c', hc', hi, rfl⟩
  · have hdb : t.base.db = r.db := by rw [ht]; rfl
    have hhist : t.base.history = r.history := by rw [ht]; rfl
    rw [hdb] at hc'
    cases hm with
    | quiet _ _ _ _ => exact Or.inl ⟨c', hc', hi, rfl⟩
    | sent _ _ => exact Or.inl ⟨c', hc', hi, rfl⟩
    | leased _ hf _ _ _ _ => exact Or.inl (rows_of_updateWhere hf.outboundTxId hf.amountRaw hc' hi)
    | reserved _ _ _ => exact Or.inl ⟨c', hc', hi, rfl⟩
    | markedBroadcast _ hx => exact Or.inl (rows_of_mark hx (fun _ => rfl) (fun _ => rfl) hc' hi)
    | confirmed _ hx =>
      exact Or.inl (rows_of_mark (CollectorDb.markConfirmed_eq_ok.mp hx).2 (fun _ => rfl)
        (fun _ => rfl) hc' hi)
    | failed _ hx => exact Or.inl (rows_of_mark hx (fun _ => rfl) (fun _ => rfl) hc' hi)
    | stored ha hpc hx =>
      obtain ⟨hnew, hrow, -, -⟩ := CollectorDb.insertSignedCollectTx_eq_ok hx
      subst ha
      have hsince := storedSince_eq hhist
      rw [hrow] at hsince
      have hof := hs.calldataOf_stored hnew hsince
        (calldata_of_unsigned haction rfl hdata)
      exact hs.records_stored hmeet haction hpc hx hof hc' hi
    | replaced ha hpc hx =>
      obtain ⟨-, hnew, hrow, -⟩ := CollectorDb.replaceSignedTx_eq_ok hx
      subst ha
      have hsince := storedSince_eq hhist
      rw [hrow] at hsince
      have hof := hs.calldataOf_stored hnew hsince
        (calldata_of_unsigned haction rfl hdata)
      exact hs.records_replaced hpc hx hof hc' hi

end SigningState

/-- **The recorded amount is the signed one**, in every run in which a worker
that stores a first transaction finds no other amount on record. -/
theorem recordsSignedAmounts_of_run (keccak256 : List UInt8 → BitVec 256)
    (cfg : ℕ → CollectorConfig) (s t : SigningState) (as : List SigningAction) (hs : s.Initial)
    (hmeet : StepsMeet (SigningState.step keccak256 cfg) SigningState.StoresItsAmount s as)
    (hrun : runSteps (SigningState.step keccak256 cfg) s as = some t) :
    t.RecordsSignedAmounts := by
  have ht : t.SigningInv :=
    inv_of_run (fun u v a hu hmeet h => ⟨hu.sound.step (SigningState.step_cases h).1,
      hu.jobs.step (SigningState.step_cases h).1, hu.keys_step h, hu.workers_step h,
      hu.records_step hmeet h⟩) hs.inv hmeet hrun
  exact ht.records

/-! ## Two workers and one collection -/

namespace SmallDeployment

/-- An action under a signer that is not asked. -/
def plain (a : CollectorAction) : SigningAction := ⟨a, 1700000000, fun _ _ _ => .error "no signer"⟩

/-- Nothing is signed yet. -/
def unsigned : SigningState := ⟨initial, fun _ => [], []⟩

theorem initial_unsigned : unsigned.Initial := ⟨initial_initial, rfl⟩

/-- Worker 0 claims the collection, finds 500 in the account and signs; its
lease runs out and worker 1 claims the collection; worker 0 stores; worker 1
finds 600, signs and stores. -/
def balanceRun : List CollectorAction :=
  .createCollection command :: (claimJobBy 0 ++ reserveBy 0
    ++ [.worker 0 (.sign ⟨1, 0, 0xc1, 0x70, 0xf0, [0x02]⟩ 0xe0), .advanceClock 61000000]
    ++ claimJobBy 1 ++ [.worker 0 .store, .worker 1 (.quote 600 ⟨30, 2⟩), .worker 1 (.reserve 0)]
    ++ storeBy 1 1 0xf1 0xe1)

end SmallDeployment

open SmallDeployment in
/-- One worker stores what it signed. -/
theorem recordsSignedAmounts_of_sentRun :
    ∃ t, runSteps (SigningState.step (fun _ => 0) config) unsigned (sentRun.map plain) = some t
      ∧ (t.base.db.collections.map CollectionRecord.outboundTxId) = [some 0xe0]
      ∧ t.RecordsSignedAmounts := by
  have hok : (runSteps (SigningState.step (fun _ => 0) config) unsigned (sentRun.map plain)).map
      (fun t => t.base.db.collections.map CollectionRecord.outboundTxId) = some [some 0xe0] := by
    decide +kernel
  have hmeet : StepsMeet (SigningState.step (fun _ => 0) config) SigningState.StoresItsAmount
      unsigned (sentRun.map plain) := by decide +kernel
  obtain ⟨t, hrun, htx⟩ := Option.map_eq_some_iff.mp hok
  exact ⟨t, hrun, htx, recordsSignedAmounts_of_run (fun _ => 0) config unsigned t
    (sentRun.map plain) initial_unsigned hmeet hrun⟩

open SmallDeployment in
/-- **The amount of the first worker stays on record under the transaction of
the second**: 500 and 600. -/
theorem recordsSignedAmounts_fails :
    ¬ ∀ (keccak256 : List UInt8 → BitVec 256) (cfg : ℕ → CollectorConfig) (s t : SigningState)
      (as : List SigningAction), s.Initial →
      runSteps (SigningState.step keccak256 cfg) s as = some t → t.RecordsSignedAmounts := by
  intro hall
  have hok : (runSteps (SigningState.step (fun _ => 0) config) unsigned
      (balanceRun.map plain)).map (fun t => (t.base.db.collections.map (fun c =>
        (c.outboundTxId, c.amountRaw)), (t.calldataOf 0xe1).bind Token.amount?))
      = some ([(some 0xe1, some 500)], some 600) := by
    decide +kernel
  obtain ⟨t, hrun, ht⟩ := Option.map_eq_some_iff.mp hok
  obtain ⟨hrows, hdata⟩ := Prod.mk.inj ht
  have hmem : (some 0xe1, some 500) ∈ t.base.db.collections.map
      (fun c => (c.outboundTxId, c.amountRaw)) := by
    rw [hrows]
    exact List.mem_singleton_self _
  obtain ⟨c, hc, heq⟩ := List.mem_map.mp hmem
  obtain ⟨htx, hamount⟩ := Prod.mk.inj heq
  obtain ⟨amount, hrecorded, hsigned⟩ := hall _ config unsigned t (balanceRun.map plain)
    initial_unsigned hrun c hc 0xe1 htx
  rw [hamount] at hrecorded
  rw [hdata, ← hrecorded] at hsigned
  exact absurd hsigned (by decide)
