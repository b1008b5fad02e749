import Pay3.CollectionRepository

/-!
# Storing and advancing outbound transactions

The transactions of `PgOutboundRepository`. Each successful one is described
once, by a lemma named after it, and the results about runs use that lemma
rather than the definition.

Two guards matter later. `insert_signed_collect_tx` attaches a signed
transaction to a collection that is `queued`, `transferring` or `replacing`:
it does not ask that none is attached yet. `replace_signed_tx` looks at the
status of the outbound row it replaces and moves whatever collection is
attached to that row back to `transferring`: it does not look at the status
of the collection.
-/

namespace CollectorDb

/-! ## Nonces -/

/-- The key of a counter row. -/
def nonceKey (r : AccountNonce) : ℕ × EvmAddress := (r.chainId, r.address)

/-- The counter stored for an account, if it has one. -/
def nextNonce? (db : CollectorDb) (chainId : ℕ) (address : EvmAddress) : Option ℕ :=
  (db.accountNonces.find? (fun r => decide (nonceKey r = (chainId, address)))).map
    AccountNonce.nextNonce

/-- The counter of an account moved to `value`. -/
def setNonce (db : CollectorDb) (chainId : ℕ) (address : EvmAddress) (value : ℕ) : CollectorDb :=
  { db with accountNonces := upsertBy nonceKey ⟨chainId, address, value⟩ db.accountNonces }

/-- A counter that was set is read back. -/
theorem nextNonce?_setNonce_self (db : CollectorDb) (chainId : ℕ) (address : EvmAddress)
    (value : ℕ) :
    (db.setNonce chainId address value).nextNonce? chainId address = some value := by
  exact congrArg (Option.map AccountNonce.nextNonce)
    (find?_upsertBy_self nonceKey ⟨chainId, address, value⟩ db.accountNonces)

/-- Setting a counter leaves the counters of other accounts alone. -/
theorem nextNonce?_setNonce_of_ne (db : CollectorDb) {chainId chainId' : ℕ}
    {address address' : EvmAddress} (value : ℕ)
    (hne : (chainId, address) ≠ (chainId', address')) :
    (db.setNonce chainId address value).nextNonce? chainId' address'
      = db.nextNonce? chainId' address' := by
  exact congrArg (Option.map AccountNonce.nextNonce)
    (find?_upsertBy_of_ne nonceKey ⟨chainId, address, value⟩ db.accountNonces hne)

/-- The nonce `reserve_nonce` hands out: the stored counter or the node's
pending nonce, whichever is larger. -/
def reservableNonce (db : CollectorDb) (chainId : ℕ) (address : EvmAddress)
    (pendingNonce : RawAmount) : ℕ :=
  match db.nextNonce? chainId address with
  | none => pendingNonce.toNat
  | some n => max n pendingNonce.toNat

/-- `decimal_to_raw_amount`, for a column. -/
def decimalToRawAmount (value : ℕ) (field : String) : Except RepositoryError RawAmount :=
  if value < 2 ^ 256 then .ok (BitVec.ofNat 256 value)
  else .error (.invalidDbValue field (toString value) "invalid raw amount: amount overflows uint256")

/-- **`reserve_nonce`.** The counter is moved up and the transaction committed
before the reserved value is converted, so a value out of range is reported
with the counter already moved. -/
def reserveNonce (db : CollectorDb) (chainId : ℕ) (fromAddress : EvmAddress)
    (pendingNonce : RawAmount) :
    Except RepositoryError (CollectorDb × Except RepositoryError ReservedNonce) := do
  let _ ← u64ToI64 chainId "chain_id"
  let reserved := db.reservableNonce chainId fromAddress pendingNonce
  ensure (decide (reserved + 1 < numeric78Bound))
    (.database (.numericFieldOverflow "next_nonce"))
  return (db.setNonce chainId fromAddress (reserved + 1), do
    let nonce ← decimalToRawAmount reserved "account_nonces.next_nonce"
    return ⟨chainId, fromAddress, nonce⟩)

/-- A reservation moves one counter to the reserved nonce plus one, and returns
that nonce if it fits an amount. -/
theorem reserveNonce_eq_ok {db db' : CollectorDb} {chainId : ℕ} {fromAddress : EvmAddress}
    {pendingNonce : RawAmount} {r : Except RepositoryError ReservedNonce}
    (h : db.reserveNonce chainId fromAddress pendingNonce = .ok (db', r)) :
    db' = db.setNonce chainId fromAddress
        (db.reservableNonce chainId fromAddress pendingNonce + 1)
      ∧ (∀ n, r = .ok n → n.chainId = chainId ∧ n.address = fromAddress
        ∧ n.nonce.toNat = db.reservableNonce chainId fromAddress pendingNonce)
      ∧ ∀ e, r = .error e
        → 2 ^ 256 ≤ db.reservableNonce chainId fromAddress pendingNonce := by
  unfold reserveNonce at h
  obtain ⟨_, _, h⟩ := Except.bind_eq_ok.mp h
  obtain ⟨_, h⟩ := ensure_bind_eq_ok.mp h
  obtain ⟨h₁, h₂⟩ := Prod.mk.inj (Except.pure_eq_ok.mp h)
  rw [← h₂]
  unfold decimalToRawAmount
  by_cases hlt : db.reservableNonce chainId fromAddress pendingNonce < 2 ^ 256
  · rw [if_pos hlt]
    refine ⟨h₁.symm, fun n hn => ?_, fun e he => by cases he⟩
    rw [← Except.ok.inj hn]
    exact ⟨rfl, rfl, (BitVec.toNat_ofNat _ _).trans (Nat.mod_eq_of_lt hlt)⟩
  · rw [if_neg hlt]
    exact ⟨h₁.symm, fun n hn => (by cases hn), fun _ _ => Nat.le_of_not_lt hlt⟩

/-! ## Storing a signed transaction -/

/-- The row `insert_signed_tx_row` inserts. -/
def newOutboundRow (now : Timestamp) (outbound : NewSignedOutboundTx)
    (replacementOf : Option Uuid) : OutboundTxRecord where
  id := outbound.id
  chainId := outbound.chainId
  purpose := outbound.purpose
  fromAddress := outbound.fromAddress
  toAddress := outbound.toAddress
  nonce := outbound.nonce
  gasLimit := outbound.gasLimit
  maxFeePerGas := outbound.maxFeePerGas
  maxPriorityFeePerGas := outbound.maxPriorityFeePerGas
  txHash := outbound.txHash
  signedTx := outbound.signedTx
  status := .signed
  replacementOf := replacementOf.or outbound.replacementOf
  replacementReason := outbound.replacementReason
  broadcastCount := 0
  lastBroadcastAt := none
  receiptBlock := none
  error := none
  createdAt := now
  updatedAt := now

/-- **`insert_signed_tx_row`.** -/
def insertSignedTxRow (db : CollectorDb) (now : Timestamp) (outbound : NewSignedOutboundTx)
    (replacementOf : Option Uuid) : Except RepositoryError (CollectorDb × OutboundTxRecord) := do
  let _ ← u64ToI64 outbound.chainId "outbound.chain_id"
  let _ ← u64ToI64 outbound.gasLimit "outbound.gas_limit"
  let row := newOutboundRow now outbound replacementOf
  db.checkOutboundRow row
  return ({ db with outboundTransactions := db.outboundTransactions ++ [row] }, row)

/-- Storing a transaction appends one row with a new identifier and a new
hash. -/
theorem insertSignedTxRow_eq_ok {db db' : CollectorDb} {now : Timestamp}
    {outbound : NewSignedOutboundTx} {replacementOf : Option Uuid} {row : OutboundTxRecord}
    (h : db.insertSignedTxRow now outbound replacementOf = .ok (db', row)) :
    (∀ o ∈ db.outboundTransactions, o.id ≠ outbound.id)
      ∧ row = newOutboundRow now outbound replacementOf
      ∧ db' = { db with outboundTransactions := db.outboundTransactions ++ [row] } := by
  unfold insertSignedTxRow at h
  obtain ⟨_, _, h⟩ := Except.bind_eq_ok.mp h
  obtain ⟨_, _, h⟩ := Except.bind_eq_ok.mp h
  obtain ⟨_, hc, h⟩ := Except.bind_eq_ok.mp h
  obtain ⟨h₁, h₂⟩ := Prod.mk.inj (Except.pure_eq_ok.mp h)
  unfold checkOutboundRow at hc
  obtain ⟨_, hc⟩ := ensure_bind_eq_ok.mp hc
  obtain ⟨_, hc⟩ := ensure_bind_eq_ok.mp hc
  obtain ⟨_, hc⟩ := ensure_bind_eq_ok.mp hc
  obtain ⟨hid, hc⟩ := ensure_bind_eq_ok.mp hc
  refine ⟨fun o ho => ?_, h₂.symm, by rw [← h₁, h₂]⟩
  exact of_decide_eq_true (List.all_eq_true.mp hid o ho)

/-- The statuses `insert_signed_collect_tx` attaches a transaction in. -/
def isAttachable : CollectionRecordStatus → Bool
  | .queued | .transferring | .replacing => true
  | _ => false

/-- The collection as `insert_signed_collect_tx` leaves it. -/
def attached (now : Timestamp) (txId : Uuid) (resolvedAmountRaw : RawAmount)
    (c : CollectionRecord) : CollectionRecord :=
  { c with
    outboundTxId := some txId
    amountRaw := c.amountRaw.or (some resolvedAmountRaw)
    status := .transferring
    lockedBy := none
    lockedUntil := none
    error := none
    updatedAt := now }

/-- **`insert_signed_collect_tx`**: the transaction is stored and attached to
the collection, whose status has to be attachable. -/
def insertSignedCollectTx (db : CollectorDb) (now : Timestamp) (collectionId : Uuid)
    (tx : NewSignedOutboundTx) (resolvedAmountRaw : RawAmount) :
    Except RepositoryError (CollectorDb × OutboundTxRecord) := do
  let (db₁, record) ← db.insertSignedTxRow now tx none
  let selected := fun c : CollectionRecord =>
    decide (c.id = collectionId) && isAttachable c.status
  let db₂ ← db₁.updateCollections true selected (attached now record.id resolvedAmountRaw)
  ensure (decide (db.collections.countP selected = 1))
    (.invariantViolation s!"collection {collectionId.hyphenated} is not attachable")
  return (db₂, record)

/-- A stored collect transaction is appended, and its collection, which was
attachable, is moved to `transferring`. -/
theorem insertSignedCollectTx_eq_ok {db db' : CollectorDb} {now : Timestamp}
    {collectionId : Uuid} {tx : NewSignedOutboundTx} {amount : RawAmount}
    {row : OutboundTxRecord}
    (h : db.insertSignedCollectTx now collectionId tx amount = .ok (db', row)) :
    (∀ o ∈ db.outboundTransactions, o.id ≠ tx.id)
      ∧ row = newOutboundRow now tx none
      ∧ (∃ c ∈ db.collections, c.id = collectionId ∧ isAttachable c.status = true)
      ∧ db' = { db with
          outboundTransactions := db.outboundTransactions ++ [row]
          collections := updateWhere
            (fun c => decide (c.id = collectionId) && isAttachable c.status)
            (attached now tx.id amount) db.collections } := by
  unfold insertSignedCollectTx at h
  obtain ⟨⟨db₁, record⟩, h₁, h⟩ := Except.bind_eq_ok.mp h
  obtain ⟨db₂, h₂, h⟩ := Except.bind_eq_ok.mp h
  obtain ⟨hone, h⟩ := ensure_bind_eq_ok.mp h
  obtain ⟨hdb, hrow⟩ := Prod.mk.inj (Except.pure_eq_ok.mp h)
  obtain ⟨hid, hrec, hdb₁⟩ := insertSignedTxRow_eq_ok h₁
  refine ⟨hid, by rw [← hrow, hrec], ?_, ?_⟩
  · have hpos : 0 < db.collections.countP
        (fun c => decide (c.id = collectionId) && isAttachable c.status) := by
      rw [of_decide_eq_true hone]
      exact Nat.one_pos
    obtain ⟨c, hc, hp⟩ := List.countP_pos_iff.mp hpos
    simp only [Bool.and_eq_true, decide_eq_true_eq] at hp
    exact ⟨c, hc, hp.1, hp.2⟩
  · rw [← hdb, updateCollections_eq_ok h₂, hdb₁, ← hrow, hrec]
    rfl

/-- The insert leaves no two active collections of one child account. -/
theorem activePerChild_insert {db db' : CollectorDb} {now : Timestamp}
    {collectionId : Uuid} {tx : NewSignedOutboundTx} {amount : RawAmount}
    {row : OutboundTxRecord}
    (h : db.insertSignedCollectTx now collectionId tx amount = .ok (db', row)) :
    activePerChild db'.collections = true := by
  unfold insertSignedCollectTx at h
  obtain ⟨⟨db₁, record⟩, _, h⟩ := Except.bind_eq_ok.mp h
  obtain ⟨db₂, h₂, h⟩ := Except.bind_eq_ok.mp h
  obtain ⟨_, h⟩ := ensure_bind_eq_ok.mp h
  obtain ⟨hdb, _⟩ := Prod.mk.inj (Except.pure_eq_ok.mp h)
  rw [← hdb]
  exact activePerChild_updateCollections h₂

/-! ## Replacing a transaction -/

/-- `ensure_replaceable`. -/
def ensureReplaceable (old : OutboundTxRecord) : Except RepositoryError Unit :=
  match old.status with
  | .signed | .broadcast | .failed | .dropped => .ok ()
  | status => .error (.invariantViolation
      s!"outbound transaction {old.id.hyphenated} with status {status.debugName} cannot be replaced")

/-- `ensure_replacement_invariants`: a replacement keeps the chain, purpose,
addresses and nonce of the transaction it replaces. -/
def ensureReplacementInvariants (old : OutboundTxRecord) (replacement : NewSignedOutboundTx) :
    Except RepositoryError Unit := do
  let id := old.id.hyphenated
  ensure (replacement.replacementOf.all (fun r => decide (r = old.id))) (.invariantViolation
    s!"replacement for outbound transaction {id} points at a different original transaction")
  ensure (decide (old.chainId = replacement.chainId) && decide (old.purpose = replacement.purpose)
      && decide (old.fromAddress = replacement.fromAddress)
      && decide (old.toAddress = replacement.toAddress)
      && decide (old.nonce = replacement.nonce)) (.invariantViolation
    s!"replacement for outbound transaction {id} changed chain/purpose/from/to/nonce invariant")

/-- The outbound row a replacement leaves behind. -/
def markReplaced (now : Timestamp) (reason : Option String) (o : OutboundTxRecord) :
    OutboundTxRecord :=
  { o with
    status := .replaced
    replacementReason := reason.or o.replacementReason
    updatedAt := now }

/-- The collection as `replace_signed_tx` leaves it. -/
def reattached (now : Timestamp) (txId : Uuid) (c : CollectionRecord) : CollectionRecord :=
  { c with
    outboundTxId := some txId
    status := .transferring
    attemptCount := c.attemptCount + 1
    lockedBy := none
    lockedUntil := none
    error := none
    updatedAt := now }

/-- **`replace_signed_tx`**: the old row is marked `replaced`, the new one
stored, and every collection attached to the old row moved to the new one. -/
def replaceSignedTx (db : CollectorDb) (now : Timestamp) (oldTxId : Uuid)
    (replacement : NewSignedOutboundTx) :
    Except RepositoryError (CollectorDb × OutboundTxRecord) := do
  let old ← orError (db.outbound? oldTxId)
    (.invariantViolation s!"outbound transaction {oldTxId.hyphenated} not found")
  ensureReplaceable old
  ensureReplacementInvariants old replacement
  -- `lock_nonce_row` reads the counter row only to lock it
  let _ ← u64ToI64 old.chainId "chain_id"
  let db₁ := { db with
    outboundTransactions := updateWhere (fun o => decide (o.id = oldTxId))
      (markReplaced now replacement.replacementReason) db.outboundTransactions }
  let (db₂, record) ← db₁.insertSignedTxRow now replacement (some oldTxId)
  let db₃ ← db₂.updateCollections true (fun c => decide (c.outboundTxId = some oldTxId))
    (reattached now record.id)
  return (db₃, record)

/-- A replacement starts from a row that can be replaced and keeps its account
and nonce; it marks that row, appends the new one and moves the attached
collections over. -/
theorem replaceSignedTx_eq_ok {db db' : CollectorDb} {now : Timestamp} {oldTxId : Uuid}
    {replacement : NewSignedOutboundTx} {row : OutboundTxRecord}
    (h : db.replaceSignedTx now oldTxId replacement = .ok (db', row)) :
    (∃ old, db.outbound? oldTxId = some old
        ∧ (old.status = .signed ∨ old.status = .broadcast ∨ old.status = .failed
          ∨ old.status = .dropped)
        ∧ old.chainId = replacement.chainId ∧ old.fromAddress = replacement.fromAddress
        ∧ old.nonce = replacement.nonce)
      ∧ (∀ o ∈ db.outboundTransactions, o.id ≠ replacement.id)
      ∧ row = newOutboundRow now replacement (some oldTxId)
      ∧ db' = { db with
          outboundTransactions := updateWhere (fun o => decide (o.id = oldTxId))
            (markReplaced now replacement.replacementReason) db.outboundTransactions ++ [row]
          collections := updateWhere (fun c => decide (c.outboundTxId = some oldTxId))
            (reattached now replacement.id) db.collections } := by
  unfold replaceSignedTx at h
  obtain ⟨old, hold, h⟩ := Except.bind_eq_ok.mp h
  obtain ⟨_, hrep, h⟩ := Except.bind_eq_ok.mp h
  obtain ⟨_, hinv, h⟩ := Except.bind_eq_ok.mp h
  obtain ⟨_, _, h⟩ := Except.bind_eq_ok.mp h
  obtain ⟨⟨db₂, record⟩, h₂, h⟩ := Except.bind_eq_ok.mp h
  obtain ⟨db₃, h₃, h⟩ := Except.bind_eq_ok.mp h
  obtain ⟨hdb, hrow⟩ := Prod.mk.inj (Except.pure_eq_ok.mp h)
  obtain ⟨hid, hrec, hdb₂⟩ := insertSignedTxRow_eq_ok h₂
  refine ⟨⟨old, orError_eq_ok.mp hold, ?_, ?_⟩, ?_, by rw [← hrow, hrec], ?_⟩
  · unfold ensureReplaceable at hrep
    cases hs : old.status with
    | signed => exact Or.inl rfl
    | broadcast => exact Or.inr (Or.inl rfl)
    | failed => exact Or.inr (Or.inr (Or.inl rfl))
    | dropped => exact Or.inr (Or.inr (Or.inr rfl))
    | confirmed => rw [hs] at hrep; cases hrep
    | replaced => rw [hs] at hrep; cases hrep
  · unfold ensureReplacementInvariants at hinv
    obtain ⟨_, hinv⟩ := ensure_bind_eq_ok.mp hinv
    have hsame := ensure_eq_ok.mp hinv
    simp only [Bool.and_eq_true, decide_eq_true_eq] at hsame
    exact ⟨hsame.1.1.1.1, hsame.1.1.2, hsame.2⟩
  · -- marking the old row keeps every identifier
    intro o ho hoid
    have hmap := map_updateWhere (p := fun o => decide (o.id = oldTxId))
      (f := markReplaced now replacement.replacementReason) (k := OutboundTxRecord.id)
      (fun _ => rfl) db.outboundTransactions
    have hmem : o.id ∈ db.outboundTransactions.map OutboundTxRecord.id :=
      List.mem_map_of_mem ho
    rw [← hmap] at hmem
    obtain ⟨q, hq, hqo⟩ := List.mem_map.mp hmem
    exact hid q hq (hqo.trans hoid)
  · rw [← hdb, updateCollections_eq_ok h₃, hdb₂, ← hrow, hrec]
    rfl

/-- The replacement leaves no two active collections of one child account. -/
theorem activePerChild_replace {db db' : CollectorDb} {now : Timestamp} {oldTxId : Uuid}
    {replacement : NewSignedOutboundTx} {row : OutboundTxRecord}
    (h : db.replaceSignedTx now oldTxId replacement = .ok (db', row)) :
    activePerChild db'.collections = true := by
  unfold replaceSignedTx at h
  obtain ⟨_, _, h⟩ := Except.bind_eq_ok.mp h
  obtain ⟨_, _, h⟩ := Except.bind_eq_ok.mp h
  obtain ⟨_, _, h⟩ := Except.bind_eq_ok.mp h
  obtain ⟨_, _, h⟩ := Except.bind_eq_ok.mp h
  obtain ⟨⟨db₂, record⟩, _, h⟩ := Except.bind_eq_ok.mp h
  obtain ⟨db₃, h₃, h⟩ := Except.bind_eq_ok.mp h
  obtain ⟨hdb, _⟩ := Prod.mk.inj (Except.pure_eq_ok.mp h)
  rw [← hdb]
  exact activePerChild_updateCollections h₃

/-! ## Claims -/

/-- The collections whose transaction is next to be broadcast or checked: the
collection in status `cs`, its attached transaction in status `os`, its lease
free. -/
def claimableFor (db : CollectorDb) (cs : CollectionRecordStatus) (os : OutboundTxStatus)
    (now : Timestamp) (chainId : ℕ) (tokenAddress : EvmAddress) :
    List (CollectionRecord × OutboundTxRecord) :=
  db.collections.filterMap (fun c =>
    match c.outboundTxId.bind db.outbound? with
    | none => none
    | some o =>
      if decide (c.status = cs) && decide (o.status = os) && decide (c.chainId = chainId)
          && decide (c.tokenAddress = tokenAddress) && leaseFree now c
      then some (c, o) else none)

/-- **The two claims on a stored transaction**: the least recently updated
collection is leased to the worker, and its transaction returned. -/
def claimCollectTx (db : CollectorDb) (cs : CollectionRecordStatus) (os : OutboundTxStatus)
    (now : Timestamp) (leaseSeconds : ℕ) (workerId : String) (chainId : ℕ)
    (tokenAddress : EvmAddress) :
    Except RepositoryError (CollectorDb × Option (Uuid × OutboundTxRecord)) := do
  let _ ← u64ToI64 leaseSeconds "claim_lease_seconds"
  let _ ← u64ToI64 chainId "chain_id"
  match firstBy (fun a b => decide (a.1.updatedAt < b.1.updatedAt)
      || (decide (a.1.updatedAt = b.1.updatedAt) && decide (a.1.id ≤ b.1.id)))
      (db.claimableFor cs os now chainId tokenAddress) with
  | none => return (db, none)
  | some (c, o) => return ({ db with
      collections := updateWhere (fun d => decide (d.id = c.id))
        (leased now leaseSeconds workerId) db.collections }, some (c.id, o))

/-- `claim_signed_collect_tx_for_broadcast`. -/
def claimSignedCollectTxForBroadcast (db : CollectorDb) (now : Timestamp) (leaseSeconds : ℕ)
    (workerId : String) (chainId : ℕ) (tokenAddress : EvmAddress) :
    Except RepositoryError (CollectorDb × Option (Uuid × OutboundTxRecord)) :=
  db.claimCollectTx .transferring .signed now leaseSeconds workerId chainId tokenAddress

/-- `claim_broadcast_collect_tx_for_receipt`. -/
def claimBroadcastCollectTxForReceipt (db : CollectorDb) (now : Timestamp) (leaseSeconds : ℕ)
    (workerId : String) (chainId : ℕ) (tokenAddress : EvmAddress) :
    Except RepositoryError (CollectorDb × Option (Uuid × OutboundTxRecord)) :=
  db.claimCollectTx .confirming .broadcast now leaseSeconds workerId chainId tokenAddress

/-- A claim leaves the database alone, or leases one collection and returns the
transaction attached to it. -/
theorem claimCollectTx_cases {db db' : CollectorDb} {cs : CollectionRecordStatus}
    {os : OutboundTxStatus} {now : Timestamp} {leaseSeconds : ℕ} {workerId : String}
    {chainId : ℕ} {tokenAddress : EvmAddress} {r : Option (Uuid × OutboundTxRecord)}
    (h : db.claimCollectTx cs os now leaseSeconds workerId chainId tokenAddress = .ok (db', r)) :
    (db' = db ∧ r = none) ∨ ∃ c ∈ db.collections, ∃ o, c.status = cs ∧ o.status = os
      ∧ c.outboundTxId.bind db.outbound? = some o ∧ r = some (c.id, o)
      ∧ db' = { db with
          collections := updateWhere (fun d => decide (d.id = c.id))
            (leased now leaseSeconds workerId) db.collections } := by
  unfold claimCollectTx at h
  obtain ⟨_, _, h⟩ := Except.bind_eq_ok.mp h
  obtain ⟨_, _, h⟩ := Except.bind_eq_ok.mp h
  split at h
  · obtain ⟨h₁, h₂⟩ := Prod.mk.inj (Except.pure_eq_ok.mp h)
    exact Or.inl ⟨h₁.symm, h₂.symm⟩
  · rename_i c o hf
    obtain ⟨h₁, h₂⟩ := Prod.mk.inj (Except.pure_eq_ok.mp h)
    obtain ⟨d, hd, hdo⟩ := List.mem_filterMap.mp (mem_of_firstBy hf)
    cases ho : d.outboundTxId.bind db.outbound? with
    | none => rw [ho] at hdo; cases hdo
    | some o' =>
      rw [ho] at hdo
      dsimp only at hdo
      split at hdo
      · rename_i hp
        obtain ⟨hdc, hoo⟩ := Prod.mk.inj (Option.some.inj hdo)
        simp only [Bool.and_eq_true, decide_eq_true_eq] at hp
        subst hdc hoo
        exact Or.inr ⟨d, hd, o', hp.1.1.1.1, hp.1.1.1.2, ho, h₂.symm, h₁.symm⟩
      · cases hdo

/-! ## Marking a transaction -/

/-- **The three `mark_*` transactions**: the outbound row, which has to be in
flight, is set; then the collection attached to it, whose status `starts`
has to accept, is set too; any other count of collections is an error. -/
def markOutbound (db : CollectorDb) (txId : Uuid) (able : String)
    (setOutbound : OutboundTxRecord → OutboundTxRecord)
    (starts : CollectionRecordStatus → Bool)
    (setCollection : CollectionRecord → CollectionRecord) :
    Except RepositoryError (CollectorDb × OutboundTxRecord) := do
  let selected := fun o : OutboundTxRecord => decide (o.id = txId) && o.status.isInFlight
  let row ← orError (db.outboundTransactions.find? selected)
    (.invariantViolation s!"outbound transaction {txId.hyphenated} is not {able}")
  let db₁ := { db with
    outboundTransactions := updateWhere selected setOutbound db.outboundTransactions }
  let isAttached := fun c : CollectionRecord =>
    decide (c.outboundTxId = some txId) && starts c.status
  let db₂ ← db₁.updateCollections false isAttached setCollection
  ensure (decide (db.collections.countP isAttached = 1)) (.invariantViolation
    s!"outbound transaction {txId.hyphenated} is not attached to a {able} collection")
  return (db₂, setOutbound row)

/-- A marked transaction was in flight and attached to exactly one collection
in an accepted status. -/
theorem markOutbound_eq_ok {db db' : CollectorDb} {txId : Uuid} {able : String}
    {setOutbound : OutboundTxRecord → OutboundTxRecord}
    {starts : CollectionRecordStatus → Bool}
    {setCollection : CollectionRecord → CollectionRecord} {row : OutboundTxRecord}
    (h : db.markOutbound txId able setOutbound starts setCollection = .ok (db', row)) :
    (∃ o ∈ db.outboundTransactions, o.id = txId ∧ o.status.isInFlight = true
        ∧ row = setOutbound o)
      ∧ db.collections.countP
          (fun c => decide (c.outboundTxId = some txId) && starts c.status) = 1
      ∧ db' = { db with
          outboundTransactions := updateWhere
            (fun o => decide (o.id = txId) && o.status.isInFlight) setOutbound
            db.outboundTransactions
          collections := updateWhere
            (fun c => decide (c.outboundTxId = some txId) && starts c.status) setCollection
            db.collections } := by
  unfold markOutbound at h
  obtain ⟨o, ho, h⟩ := Except.bind_eq_ok.mp h
  obtain ⟨db₂, h₂, h⟩ := Except.bind_eq_ok.mp h
  obtain ⟨hone, h⟩ := ensure_bind_eq_ok.mp h
  obtain ⟨hdb, hrow⟩ := Prod.mk.inj (Except.pure_eq_ok.mp h)
  have hfind := orError_eq_ok.mp ho
  have hsel := List.find?_some hfind
  simp only [Bool.and_eq_true, decide_eq_true_eq] at hsel
  refine ⟨⟨o, List.mem_of_find?_eq_some hfind, hsel.1, hsel.2, hrow.symm⟩,
    of_decide_eq_true hone, ?_⟩
  rw [← hdb, updateCollections_eq_ok h₂]

/-- A mark leaves no two active collections of one child account. -/
theorem activePerChild_mark {db db' : CollectorDb} {txId : Uuid} {able : String}
    {setOutbound : OutboundTxRecord → OutboundTxRecord}
    {starts : CollectionRecordStatus → Bool}
    {setCollection : CollectionRecord → CollectionRecord} {row : OutboundTxRecord}
    (h : db.markOutbound txId able setOutbound starts setCollection = .ok (db', row)) :
    activePerChild db'.collections = true := by
  unfold markOutbound at h
  obtain ⟨_, _, h⟩ := Except.bind_eq_ok.mp h
  obtain ⟨db₂, h₂, h⟩ := Except.bind_eq_ok.mp h
  obtain ⟨_, h⟩ := ensure_bind_eq_ok.mp h
  obtain ⟨hdb, _⟩ := Prod.mk.inj (Except.pure_eq_ok.mp h)
  rw [← hdb]
  exact activePerChild_updateCollections h₂

/-- The transaction as `mark_broadcast` leaves it. -/
def outboundBroadcast (now : Timestamp) (o : OutboundTxRecord) : OutboundTxRecord :=
  { o with
    status := .broadcast
    broadcastCount := o.broadcastCount + 1
    lastBroadcastAt := some now
    error := none
    updatedAt := now }

/-- The transaction as `mark_confirmed` leaves it. -/
def outboundConfirmed (now : Timestamp) (receiptBlock : ChainBlockRef) (o : OutboundTxRecord) :
    OutboundTxRecord :=
  { o with
    status := .confirmed, receiptBlock := some receiptBlock, error := none, updatedAt := now }

/-- The transaction as `mark_failed` leaves it. -/
def outboundFailed (now : Timestamp) (error : String) (o : OutboundTxRecord) : OutboundTxRecord :=
  { o with status := .failed, error := some error, updatedAt := now }

/-- The collection as `mark_broadcast` leaves it. -/
def collectionConfirming (now : Timestamp) (c : CollectionRecord) : CollectionRecord :=
  { c with status := .confirming, lockedBy := none, lockedUntil := none, updatedAt := now }

/-- The collection as `mark_confirmed` leaves it. -/
def collectionConfirmed (now : Timestamp) (c : CollectionRecord) : CollectionRecord :=
  { c with
    status := .confirmed, lockedBy := none, lockedUntil := none, error := none, updatedAt := now }

/-- The collection as `mark_failed` leaves it. -/
def collectionFailed (now : Timestamp) (error : String) (c : CollectionRecord) :
    CollectionRecord :=
  { c with
    status := .failed, lockedBy := none, lockedUntil := none, error := some error
    updatedAt := now }

/-- **`mark_broadcast`.** -/
def markBroadcast (db : CollectorDb) (now : Timestamp) (txId : Uuid) :
    Except RepositoryError (CollectorDb × OutboundTxRecord) :=
  db.markOutbound txId "broadcastable" (outboundBroadcast now)
    (fun s => decide (s = .transferring) || decide (s = .confirming)) (collectionConfirming now)

/-- **`mark_confirmed`.** -/
def markConfirmed (db : CollectorDb) (now : Timestamp) (txId : Uuid)
    (receiptBlock : ChainBlockRef) : Except RepositoryError (CollectorDb × OutboundTxRecord) := do
  let _ ← u64ToI64 receiptBlock.number "receipt_block.number"
  db.markOutbound txId "confirmable" (outboundConfirmed now receiptBlock)
    (fun s => decide (s = .confirming)) (collectionConfirmed now)

/-- **`mark_failed`.** -/
def markFailed (db : CollectorDb) (now : Timestamp) (txId : Uuid) (error : String) :
    Except RepositoryError (CollectorDb × OutboundTxRecord) :=
  db.markOutbound txId "failable" (outboundFailed now error)
    (fun s => decide (s = .confirming)) (collectionFailed now error)

/-- A confirmed transaction had a receipt block the database can store. -/
theorem markConfirmed_eq_ok {db : CollectorDb} {now : Timestamp} {txId : Uuid}
    {receiptBlock : ChainBlockRef} {r : CollectorDb × OutboundTxRecord} :
    db.markConfirmed now txId receiptBlock = .ok r
      ↔ receiptBlock.number ≤ i64Max
        ∧ db.markOutbound txId "confirmable" (outboundConfirmed now receiptBlock)
          (fun s => decide (s = .confirming)) (collectionConfirmed now) = .ok r := by
  unfold markConfirmed
  rw [Except.bind_eq_ok]
  constructor
  · rintro ⟨n, hn, h⟩
    exact ⟨(toI64_eq_ok.mp hn).1, h⟩
  · rintro ⟨hle, h⟩
    exact ⟨receiptBlock.number, toI64_eq_ok.mpr ⟨hle, rfl⟩, h⟩

end CollectorDb
