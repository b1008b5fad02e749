import Pay3.CollectorSystem
import Mathlib.Data.List.Pairwise

/-!
# Collections and their transactions agree

Two tables hold one fact: a collection is as far as the transaction it is
attached to. The transactions of two repositories write them, each with its
own guards, and none of them is called under the others' control: a caller may
mark a transaction that was replaced, attach a second one to a collection that
has one, or replace one that no collection is attached to any more.

This module takes them in any order, with any identifiers, and shows that
after each of them the tables agree again. What makes it true is not the
guards on the status alone. A mark that finds no collection to move is rolled
back with the outbound row it had already set, and a transaction is attached
under a fresh identifier, so that a collection that changes its transaction
never takes over another's.
-/

/-- **The pairs of statuses a collection and its transaction may be in.** -/
def CollectionRecordStatus.agrees : CollectionRecordStatus → OutboundTxRecord → Bool
  | .transferring, o => decide (o.status = .signed)
  | .confirming, o => decide (o.status = .broadcast)
  | .confirmed, o => decide (o.status = .confirmed) && o.receiptBlock.isSome
  | .failed, o => decide (o.status = .failed)
  | _, _ => false

/-- No collection agrees with a transaction that was replaced. -/
theorem CollectionRecordStatus.not_agrees_replaced {s : CollectionRecordStatus}
    {o : OutboundTxRecord} (h : s.agrees o = true) : o.status ≠ .replaced := by
  intro ho
  cases s <;> simp [agrees, ho] at h

/-! ## The calls -/

/-- **The calls that write the two tables**, with the changes the rest of the
program makes to the tables they refer to. -/
inductive CollectionCall
  | createCollection (command : CreateCollectionCommand)
  | claimCollectionJob (leaseSeconds : ℕ) (workerId : String) (chainId : ℕ)
      (tokenAddress : EvmAddress)
  | claimSignedCollectTxForBroadcast (leaseSeconds : ℕ) (workerId : String) (chainId : ℕ)
      (tokenAddress : EvmAddress)
  | claimBroadcastCollectTxForReceipt (leaseSeconds : ℕ) (workerId : String) (chainId : ℕ)
      (tokenAddress : EvmAddress)
  | reserveNonce (chainId : ℕ) (fromAddress : EvmAddress) (pendingNonce : RawAmount)
  | insertSignedCollectTx (collectionId : Uuid) (tx : NewSignedOutboundTx) (amount : RawAmount)
  | markBroadcast (txId : Uuid)
  | replaceSignedTx (oldTxId : Uuid) (replacement : NewSignedOutboundTx)
  | markConfirmed (txId : Uuid) (receiptBlock : ChainBlockRef)
  | markFailed (txId : Uuid) (error : String)
  /-- An order is created or changes its status. -/
  | setOrders (orders : List CollectableOrder)
  /-- A child account is registered with an order. -/
  | addChildAccount (account : ChildAccountRecord)
  /-- The destinations and relayers are seeded. -/
  | setRoutes (treasuryAddresses : List (ℕ × EvmAddress × EvmAddress))
      (relayerAddresses : List (ℕ × EvmAddress))

namespace CollectorDb

/-- A new row of `child_accounts`, under the keys on the identifier and on the
address. -/
def insertChildAccount (db : CollectorDb) (account : ChildAccountRecord) :
    Except RepositoryError CollectorDb := do
  ensure (db.childAccounts.all (fun a => a.id ≠ account.id))
    (.database (.uniqueViolation "child_accounts_pkey"))
  ensure (db.childAccounts.all (fun a => a.address ≠ account.address))
    (.database (.uniqueViolation "child_accounts_address_key"))
  return { db with childAccounts := db.childAccounts ++ [account] }

/-- The database a call leaves, if it commits. -/
def runCall (db : CollectorDb) (now : Timestamp) : CollectionCall →
    Except RepositoryError CollectorDb
  | .createCollection command => (db.createCollectionIdempotent now command).map Prod.fst
  | .claimCollectionJob leaseSeconds workerId chainId tokenAddress =>
    (db.claimCollectionJob now leaseSeconds workerId chainId tokenAddress).map Prod.fst
  | .claimSignedCollectTxForBroadcast leaseSeconds workerId chainId tokenAddress =>
    (db.claimSignedCollectTxForBroadcast now leaseSeconds workerId chainId tokenAddress).map
      Prod.fst
  | .claimBroadcastCollectTxForReceipt leaseSeconds workerId chainId tokenAddress =>
    (db.claimBroadcastCollectTxForReceipt now leaseSeconds workerId chainId tokenAddress).map
      Prod.fst
  | .reserveNonce chainId fromAddress pendingNonce =>
    (db.reserveNonce chainId fromAddress pendingNonce).map Prod.fst
  | .insertSignedCollectTx collectionId tx amount =>
    (db.insertSignedCollectTx now collectionId tx amount).map Prod.fst
  | .markBroadcast txId => (db.markBroadcast now txId).map Prod.fst
  | .replaceSignedTx oldTxId replacement => (db.replaceSignedTx now oldTxId replacement).map Prod.fst
  | .markConfirmed txId receiptBlock => (db.markConfirmed now txId receiptBlock).map Prod.fst
  | .markFailed txId error => (db.markFailed now txId error).map Prod.fst
  | .setOrders orders => .ok { db with orders := orders }
  | .addChildAccount account => db.insertChildAccount account
  | .setRoutes treasuryAddresses relayerAddresses =>
    .ok { db with treasuryAddresses := treasuryAddresses, relayerAddresses := relayerAddresses }

/-- One call at a given time; a failed one leaves the database as it was. -/
def callStep (db : CollectorDb) (a : Timestamp × CollectionCall) : Option CollectorDb :=
  match db.runCall a.1 a.2 with
  | .ok db' => some db'
  | .error _ => some db

/-- **Before any collection**: the two tables are empty, and every address is
that of one child account. -/
structure Empty (db : CollectorDb) : Prop where
  collections : db.collections = []
  outbounds : db.outboundTransactions = []
  addresses : (db.childAccounts.map ChildAccountRecord.address).Nodup

/-- **The two tables agree.** -/
structure Coherent (db : CollectorDb) : Prop where
  /-- A queued collection has no transaction. -/
  queued : ∀ c ∈ db.collections, c.status = .queued → c.outboundTxId = none
  /-- A collection agrees with its transaction. -/
  agrees : ∀ c ∈ db.collections, ∀ i, c.outboundTxId = some i →
    ∃ o ∈ db.outboundTransactions, o.id = i ∧ c.status.agrees o = true
  /-- A replaced transaction has no collection. -/
  replaced : ∀ o ∈ db.outboundTransactions, o.status = .replaced →
    ∀ c ∈ db.collections, c.outboundTxId ≠ some o.id
  /-- No transaction has two collections. -/
  unshared : db.collections.Pairwise
    (fun c d => ∀ i, c.outboundTxId = some i → d.outboundTxId ≠ some i)
  /-- No address has two collections that have not ended. -/
  active : db.collections.Pairwise
    (fun c d => c.fromAddress = d.fromAddress → c.status.isTerminal = true ∨ d.status.isTerminal = true)

/-! ## The invariant -/

/-- A collection is queued without a transaction, or attached to one it agrees
with. -/
def Linked (outbounds : List OutboundTxRecord) (c : CollectionRecord) : Prop :=
  (c.status = .queued ∧ c.outboundTxId = none)
    ∨ ∃ o ∈ outbounds, c.outboundTxId = some o.id ∧ c.status.agrees o = true

/-- Two collections have no transaction in common. -/
def Unshared (c d : CollectionRecord) : Prop :=
  ∀ i, c.outboundTxId = some i → d.outboundTxId ≠ some i

instance : Std.Symm Unshared := ⟨fun _ _ h i hd hc => h i hc hd⟩

/-- **The invariant of the two tables**, with the keys that carry it. -/
structure CoherenceInv (db : CollectorDb) : Prop where
  collection_ids : (db.collections.map CollectionRecord.id).Nodup
  outbound_ids : (db.outboundTransactions.map OutboundTxRecord.id).Nodup
  linked : ∀ c ∈ db.collections, Linked db.outboundTransactions c
  unshared : db.collections.Pairwise Unshared
  active : activePerChild db.collections = true
  accounts : ∀ c ∈ db.collections, ∃ a ∈ db.childAccounts,
    a.id = c.childAccountId ∧ a.address = c.fromAddress
  addresses : (db.childAccounts.map ChildAccountRecord.address).Nodup

/-- Only the statuses a collection goes through are reached. -/
theorem Linked.active_or_terminal {outbounds : List OutboundTxRecord} {c : CollectionRecord}
    (h : Linked outbounds c) : c.status.isIndexedActive = true ∨ c.status.isTerminal = true := by
  rcases h with ⟨hq, -⟩ | ⟨o, -, -, hagrees⟩
  · exact Or.inl (by rw [hq]; rfl)
  · cases hs : c.status with
    | queued => exact Or.inl rfl
    | transferring => exact Or.inl rfl
    | confirming => exact Or.inl rfl
    | confirmed => exact Or.inr rfl
    | failed => exact Or.inr rfl
    | dropped => rw [hs] at hagrees; cases hagrees
    | replacing => rw [hs] at hagrees; cases hagrees
    | replaced => rw [hs] at hagrees; cases hagrees

namespace CoherenceInv

variable {db db' : CollectorDb}

/-- Two collections of one address are of one child account. -/
theorem childAccountId_eq (h : CoherenceInv db) {c d : CollectionRecord} (hc : c ∈ db.collections)
    (hd : d ∈ db.collections) (haddr : c.fromAddress = d.fromAddress) :
    c.childAccountId = d.childAccountId := by
  obtain ⟨a, ha, hac, hafrom⟩ := h.accounts c hc
  obtain ⟨b, hb, hbd, hbfrom⟩ := h.accounts d hd
  have hab : a = b := List.inj_on_of_nodup_map h.addresses ha hb
    (hafrom.trans (haddr.trans hbfrom.symm))
  rw [← hac, ← hbd, hab]

/-- The invariant says that the tables agree. -/
theorem coherent (h : CoherenceInv db) : Coherent db where
  queued := by
    intro c hc hq
    rcases h.linked c hc with ⟨-, hnone⟩ | ⟨o, -, -, hagrees⟩
    · exact hnone
    · rw [hq] at hagrees
      cases hagrees
  agrees := by
    intro c hc i hi
    rcases h.linked c hc with ⟨-, hnone⟩ | ⟨o, ho, htx, hagrees⟩
    · rw [hnone] at hi
      cases hi
    · rw [htx] at hi
      exact ⟨o, ho, Option.some.inj hi, hagrees⟩
  replaced := by
    intro o ho hr c hc htx
    rcases h.linked c hc with ⟨-, hnone⟩ | ⟨o', ho', htx', hagrees⟩
    · rw [hnone] at htx
      cases htx
    · rw [htx'] at htx
      have heq : o' = o := List.inj_on_of_nodup_map h.outbound_ids ho' ho (Option.some.inj htx)
      exact CollectionRecordStatus.not_agrees_replaced hagrees (heq ▸ hr)
  unshared := h.unshared
  active := by
    have hactive := of_decide_eq_true h.active
    refine hactive.imp_of_mem (fun {c d} hc hd hcd haddr => ?_)
    rcases (h.linked c hc).active_or_terminal with hca | hct
    · rcases (h.linked d hd).active_or_terminal with hda | hdt
      · exact absurd ⟨hca, hda, h.childAccountId_eq hc hd haddr⟩ hcd
      · exact Or.inr hdt
    · exact Or.inl hct

/-! ## What keeps it -/

/-- The tables other than collections, transactions and accounts do not
matter. -/
theorem of_eq (h : CoherenceInv db) (hc : db'.collections = db.collections)
    (ho : db'.outboundTransactions = db.outboundTransactions)
    (ha : db'.childAccounts = db.childAccounts) : CoherenceInv db' := by
  constructor
  · rw [hc]; exact h.collection_ids
  · rw [ho]; exact h.outbound_ids
  · rw [hc, ho]; exact h.linked
  · rw [hc]; exact h.unshared
  · rw [hc]; exact h.active
  · rw [hc, ha]; exact h.accounts
  · rw [ha]; exact h.addresses

/-- **One update of the collections and a new table of transactions**, checked
collection by collection. -/
theorem rewrite (h : CoherenceInv db) {outbounds : List OutboundTxRecord}
    {p : CollectionRecord → Bool} {f : CollectionRecord → CollectionRecord}
    (hid : ∀ c, (f c).id = c.id) (hchild : ∀ c, (f c).childAccountId = c.childAccountId)
    (hfrom : ∀ c, (f c).fromAddress = c.fromAddress)
    (hids : (outbounds.map OutboundTxRecord.id).Nodup)
    (hlinked : ∀ c ∈ db.collections, Linked outbounds (if p c then f c else c))
    (hunshared : ∀ c ∈ db.collections, ∀ d ∈ db.collections, c.id ≠ d.id → Unshared c d →
      Unshared (if p c then f c else c) (if p d then f d else d))
    (hactive : activePerChild (updateWhere p f db.collections) = true) :
    CoherenceInv { db with
      outboundTransactions := outbounds
      collections := updateWhere p f db.collections } where
  collection_ids := by
    rw [map_updateWhere hid]
    exact h.collection_ids
  outbound_ids := hids
  linked := by
    intro c hc
    rcases mem_updateWhere.mp hc with ⟨d, hd, hp, rfl⟩ | ⟨hc, hp⟩
    · have hl := hlinked d hd
      rwa [if_pos hp] at hl
    · have hl := hlinked c hc
      rwa [if_neg (by rw [hp]; exact Bool.false_ne_true)] at hl
  unshared := by
    have hdistinct : db.collections.Pairwise (fun c d => c.id ≠ d.id) :=
      List.pairwise_map.mp h.collection_ids
    exact pairwise_updateWhere (hdistinct.and h.unshared)
      (fun c hc d hd hcd => hunshared c hc d hd hcd.1 hcd.2)
  active := hactive
  accounts := by
    intro c hc
    rcases mem_updateWhere.mp hc with ⟨d, hd, -, rfl⟩ | ⟨hc, -⟩
    · obtain ⟨a, ha, hac, haddr⟩ := h.accounts d hd
      exact ⟨a, ha, by rw [hchild]; exact hac, by rw [hfrom]; exact haddr⟩
    · exact h.accounts c hc
  addresses := h.addresses

/-- An update that writes leases keeps the invariant. -/
theorem lease (h : CoherenceInv db) {p : CollectionRecord → Bool}
    {f : CollectionRecord → CollectionRecord} (hid : ∀ c, (f c).id = c.id)
    (hchild : ∀ c, (f c).childAccountId = c.childAccountId)
    (hfrom : ∀ c, (f c).fromAddress = c.fromAddress) (hstatus : ∀ c, (f c).status = c.status)
    (htx : ∀ c, (f c).outboundTxId = c.outboundTxId) :
    CoherenceInv { db with collections := updateWhere p f db.collections } := by
  have hkept : ∀ c, (if p c then f c else c).status = c.status
      ∧ (if p c then f c else c).outboundTxId = c.outboundTxId := by
    intro c
    split
    · exact ⟨hstatus c, htx c⟩
    · exact ⟨rfl, rfl⟩
  refine h.rewrite hid hchild hfrom h.outbound_ids (fun c hc => ?_) (fun c _ d _ _ hcd => ?_) ?_
  · unfold Linked
    rw [(hkept c).1, (hkept c).2]
    exact h.linked c hc
  · unfold Unshared
    rw [(hkept c).2, (hkept d).2]
    exact hcd
  · exact activePerChild_updateWhere h.active hchild
      (fun c hc => by rw [← hstatus c]; exact hc)

/-- A claim on a stored transaction writes a lease. -/
theorem claim (h : CoherenceInv db) {cs : CollectionRecordStatus} {os : OutboundTxStatus}
    {now : Timestamp} {leaseSeconds : ℕ} {workerId : String} {chainId : ℕ}
    {tokenAddress : EvmAddress} {r : Option (Uuid × OutboundTxRecord)}
    (hx : db.claimCollectTx cs os now leaseSeconds workerId chainId tokenAddress = .ok (db', r)) :
    CoherenceInv db' := by
  obtain ⟨hdb, -⟩ | ⟨c, -, o, -, -, -, -, hdb⟩ := claimCollectTx_cases hx
  · exact hdb ▸ h
  · rw [hdb]
    exact h.lease (fun _ => rfl) (fun _ => rfl) (fun _ => rfl) (fun _ => rfl) (fun _ => rfl)

/-- A new collection is queued, without a transaction, for a child account that
exists. -/
theorem create (h : CoherenceInv db) {now : Timestamp} {command : CreateCollectionCommand}
    (hins : db.Inserts now command) :
    CoherenceInv { db with collections := db.collections ++ [newCollection now command] } where
  collection_ids := by
    rw [List.map_append, List.nodup_append]
    refine ⟨h.collection_ids, by simp, fun a ha b hb hab => ?_⟩
    obtain ⟨d, hd, rfl⟩ := List.mem_map.mp ha
    rw [List.map_singleton, List.mem_singleton] at hb
    exact hins.fresh d hd (hab.trans hb)
  outbound_ids := h.outbound_ids
  linked := by
    intro c hc
    rcases List.mem_append.mp hc with hc | hc
    · exact h.linked c hc
    · rw [List.mem_singleton.mp hc]
      exact Or.inl ⟨rfl, rfl⟩
  unshared := by
    refine List.pairwise_append.mpr ⟨h.unshared, List.pairwise_singleton _ _, ?_⟩
    intro c _ d hd i _ hdi
    rw [List.mem_singleton.mp hd] at hdi
    cases hdi
  active := hins.active
  accounts := by
    intro c hc
    rcases List.mem_append.mp hc with hc | hc
    · exact h.accounts c hc
    · rw [List.mem_singleton.mp hc]
      exact hins.account
  addresses := h.addresses

/-- Every attached identifier is that of a stored transaction. -/
theorem mem_ids_of_attached (h : CoherenceInv db) {c : CollectionRecord} (hc : c ∈ db.collections)
    {i : Uuid} (hi : c.outboundTxId = some i) :
    i ∈ db.outboundTransactions.map OutboundTxRecord.id := by
  rcases h.linked c hc with ⟨-, hnone⟩ | ⟨o, ho, htx, -⟩
  · rw [hnone] at hi
    cases hi
  · rw [htx] at hi
    rw [← Option.some.inj hi]
    exact List.mem_map_of_mem ho

/-- **A fresh transaction is attached**: the selected collection, and no other,
moves to `transferring` with a new `signed` row. The rows that were there may
change, as long as every collection that is not selected still agrees with
its own. -/
theorem attach (h : CoherenceInv db) {outbounds : List OutboundTxRecord} {row : OutboundTxRecord}
    {p : CollectionRecord → Bool} {f : CollectionRecord → CollectionRecord}
    (hid : ∀ c, (f c).id = c.id) (hchild : ∀ c, (f c).childAccountId = c.childAccountId)
    (hfrom : ∀ c, (f c).fromAddress = c.fromAddress)
    (htx : ∀ c, (f c).outboundTxId = some row.id) (hstatus : ∀ c, (f c).status = .transferring)
    (hids : outbounds.map OutboundTxRecord.id = db.outboundTransactions.map OutboundTxRecord.id)
    (hfresh : ∀ o ∈ db.outboundTransactions, o.id ≠ row.id) (hsigned : row.status = .signed)
    (hkept : ∀ c ∈ db.collections, p c = false → Linked outbounds c)
    (hone : ∀ c ∈ db.collections, ∀ d ∈ db.collections, c.id ≠ d.id → Unshared c d →
      p c = true → p d = false)
    (hactive : activePerChild (updateWhere p f db.collections) = true) :
    CoherenceInv { db with
      outboundTransactions := outbounds ++ [row]
      collections := updateWhere p f db.collections } := by
  have hnew : row.id ∉ db.outboundTransactions.map OutboundTxRecord.id := by
    intro hmem
    obtain ⟨o, ho, hoi⟩ := List.mem_map.mp hmem
    exact hfresh o ho hoi
  refine h.rewrite hid hchild hfrom ?_ (fun c hc => ?_) (fun c hc d hd hne hcd => ?_) hactive
  · rw [List.map_append, hids, List.nodup_append]
    refine ⟨h.outbound_ids, by simp, fun a ha b hb hab => ?_⟩
    rw [List.map_singleton, List.mem_singleton] at hb
    exact hnew (hb ▸ hab ▸ ha)
  · by_cases hp : p c = true
    · rw [if_pos hp]
      refine Or.inr ⟨row, List.mem_append_right _ (List.mem_singleton_self row), htx c, ?_⟩
      rw [hstatus c]
      exact decide_eq_true hsigned
    · rw [if_neg hp]
      rcases hkept c hc (by simpa using hp) with hq | ⟨o, ho, hrest⟩
      · exact Or.inl hq
      · exact Or.inr ⟨o, List.mem_append_left _ ho, hrest⟩
  · -- the new identifier is nobody's yet, and at most one of the two takes it
    have hnot : ∀ e ∈ db.collections, e.outboundTxId ≠ some row.id :=
      fun e he hei => hnew (h.mem_ids_of_attached he hei)
    by_cases hp : p c = true
    · have hpd := hone c hc d hd hne hcd hp
      rw [if_pos hp, if_neg (by rw [hpd]; exact Bool.false_ne_true)]
      intro i hi
      rw [htx c] at hi
      rw [← Option.some.inj hi]
      exact hnot d hd
    · rw [if_neg hp]
      by_cases hpd : p d = true
      · rw [if_pos hpd]
        intro i hi hdi
        rw [htx d] at hdi
        exact hnot c hc (hi.trans hdi.symm)
      · rw [if_neg hpd]
        exact hcd

/-- `insert_signed_collect_tx` keeps the invariant. -/
theorem insert (h : CoherenceInv db) {now : Timestamp} {i : Uuid} {tx : NewSignedOutboundTx}
    {amount : RawAmount} {row : OutboundTxRecord}
    (hx : db.insertSignedCollectTx now i tx amount = .ok (db', row)) : CoherenceInv db' := by
  have hactive := activePerChild_insert hx
  obtain ⟨hfresh, rfl, -, rfl⟩ := insertSignedCollectTx_eq_ok hx
  refine h.attach (fun _ => rfl) (fun _ => rfl) (fun _ => rfl) (fun _ => rfl) (fun _ => rfl) rfl
    hfresh rfl (fun c hc _ => h.linked c hc) (fun c _ d _ hne _ hp => ?_) hactive
  simp only [Bool.and_eq_true, decide_eq_true_eq] at hp
  rw [Bool.and_eq_false_iff, decide_eq_false_iff_not]
  exact Or.inl (fun hd => hne (hp.1.trans hd.symm))

/-- `replace_signed_tx` keeps the invariant. A collection that stays where it is
was not attached to the transaction marked `replaced`. -/
theorem replace (h : CoherenceInv db) {now : Timestamp} {oldTxId : Uuid}
    {replacement : NewSignedOutboundTx} {row : OutboundTxRecord}
    (hx : db.replaceSignedTx now oldTxId replacement = .ok (db', row)) : CoherenceInv db' := by
  have hactive := activePerChild_replace hx
  obtain ⟨-, hfresh, rfl, rfl⟩ := replaceSignedTx_eq_ok hx
  refine h.attach (fun _ => rfl) (fun _ => rfl) (fun _ => rfl) (fun _ => rfl) (fun _ => rfl)
    (map_updateWhere (f := markReplaced now replacement.replacementReason) (fun _ => rfl) _)
    hfresh rfl (fun c hc hp => ?_)
    (fun c _ d _ _ hcd hp => ?_) hactive
  · rcases h.linked c hc with hq | ⟨o, ho, htx, hagrees⟩
    · exact Or.inl hq
    · refine Or.inr ⟨o, mem_updateWhere.mpr (Or.inr ⟨ho, ?_⟩), htx, hagrees⟩
      rw [decide_eq_false_iff_not] at hp ⊢
      exact fun hoi => hp (hoi ▸ htx)
  · rw [decide_eq_true_eq] at hp
    rw [decide_eq_false_iff_not]
    exact hcd oldTxId hp

/-- **A mark moves a transaction and its collection together.** The collection
that was moved is the only one attached, so a status the update does not start
from is not one it leaves behind. -/
theorem mark (h : CoherenceInv db) {txId : Uuid} {able : String}
    {setOutbound : OutboundTxRecord → OutboundTxRecord} {starts : CollectionRecordStatus → Bool}
    {setCollection : CollectionRecord → CollectionRecord} {row : OutboundTxRecord}
    (hx : db.markOutbound txId able setOutbound starts setCollection = .ok (db', row))
    (hoid : ∀ o, (setOutbound o).id = o.id) (hid : ∀ c, (setCollection c).id = c.id)
    (hchild : ∀ c, (setCollection c).childAccountId = c.childAccountId)
    (hfrom : ∀ c, (setCollection c).fromAddress = c.fromAddress)
    (htx : ∀ c, (setCollection c).outboundTxId = c.outboundTxId)
    (hagrees : ∀ c o, (setCollection c).status.agrees (setOutbound o) = true) :
    CoherenceInv db' := by
  have hactive := activePerChild_mark hx
  obtain ⟨⟨o, ho, hoi, hflight, -⟩, hone, rfl⟩ := markOutbound_eq_ok hx
  -- the one collection attached to the transaction is the one that is moved
  have honly : ∀ c ∈ db.collections, c.outboundTxId = some txId → starts c.status = true := by
    intro c hc hctx
    have hpos : 0 < db.collections.countP
        (fun c => decide (c.outboundTxId = some txId) && starts c.status) := by
      rw [hone]
      exact Nat.one_pos
    obtain ⟨d, hd, hp⟩ := List.countP_pos_iff.mp hpos
    simp only [Bool.and_eq_true, decide_eq_true_eq] at hp
    by_cases hcd : c = d
    · rw [hcd]
      exact hp.2
    · exact absurd hp.1 (h.unshared.forall hc hd hcd txId hctx)
  have hkeptTx : ∀ c, (if (decide (c.outboundTxId = some txId) && starts c.status) = true
      then setCollection c else c).outboundTxId = c.outboundTxId := by
    intro c
    split
    · exact htx c
    · rfl
  refine h.rewrite hid hchild hfrom ?_ (fun c hc => ?_) (fun c _ d _ _ hcd => ?_) hactive
  · rw [map_updateWhere hoid]
    exact h.outbound_ids
  · by_cases hp : (decide (c.outboundTxId = some txId) && starts c.status) = true
    · rw [if_pos hp]
      simp only [Bool.and_eq_true, decide_eq_true_eq] at hp
      refine Or.inr ⟨setOutbound o, mem_updateWhere.mpr (Or.inl ⟨o, ho, ?_, rfl⟩), ?_, hagrees c o⟩
      · rw [decide_eq_true hoi, hflight]
        rfl
      · rw [htx, hoid, hoi]
        exact hp.1
    · rw [if_neg hp]
      rcases h.linked c hc with hq | ⟨o', ho', hctx, hag⟩
      · exact Or.inl hq
      · refine Or.inr ⟨o', mem_updateWhere.mpr (Or.inr ⟨ho', ?_⟩), hctx, hag⟩
        rw [Bool.and_eq_false_iff, decide_eq_false_iff_not]
        refine Or.inl (fun hoi' => hp ?_)
        rw [hoi'] at hctx
        rw [decide_eq_true hctx, honly c hc hctx]
        rfl
  · unfold Unshared
    rw [hkeptTx c, hkeptTx d]
    exact hcd

/-- A new child account takes an address nobody has. -/
theorem addAccount (h : CoherenceInv db) {account : ChildAccountRecord}
    (hx : db.insertChildAccount account = .ok db') : CoherenceInv db' := by
  unfold insertChildAccount at hx
  obtain ⟨-, hx⟩ := ensure_bind_eq_ok.mp hx
  obtain ⟨haddr, hx⟩ := ensure_bind_eq_ok.mp hx
  obtain rfl := Except.pure_eq_ok.mp hx
  refine ⟨h.collection_ids, h.outbound_ids, h.linked, h.unshared, h.active, fun c hc => ?_, ?_⟩
  · obtain ⟨a, ha, hrest⟩ := h.accounts c hc
    exact ⟨a, List.mem_append_left _ ha, hrest⟩
  · rw [List.map_append, List.nodup_append]
    refine ⟨h.addresses, by simp, fun x hx y hy hxy => ?_⟩
    obtain ⟨a, ha, rfl⟩ := List.mem_map.mp hx
    rw [List.map_singleton, List.mem_singleton] at hy
    exact of_decide_eq_true (List.all_eq_true.mp haddr a ha) (hxy.trans hy)

/-- **Every call keeps the invariant.** -/
theorem call (h : CoherenceInv db) {now : Timestamp} {a : CollectionCall}
    (hx : db.runCall now a = .ok db') : CoherenceInv db' := by
  cases a with
  | createCollection command =>
    obtain ⟨⟨db₁, c⟩, hc, rfl⟩ := Except.map_eq_ok.mp hx
    obtain ⟨-, -, hdb⟩ | ⟨-, -, hdb⟩ | ⟨-, -, -, hins, -, hdb⟩ :=
      createCollectionIdempotent_eq_ok hc
    · exact hdb ▸ h
    · exact hdb ▸ h
    · exact hdb ▸ h.create hins
  | claimCollectionJob leaseSeconds workerId chainId tokenAddress =>
    obtain ⟨⟨db₁, job⟩, hc, rfl⟩ := Except.map_eq_ok.mp hx
    obtain ⟨hdb, -⟩ | ⟨c, -, -, -, -, hdb⟩ := claimCollectionJob_cases hc
    · exact hdb ▸ h
    · rw [hdb]
      exact h.lease (fun _ => rfl) (fun _ => rfl) (fun _ => rfl) (fun _ => rfl) (fun _ => rfl)
  | claimSignedCollectTxForBroadcast leaseSeconds workerId chainId tokenAddress =>
    obtain ⟨⟨db₁, claim⟩, hc, rfl⟩ := Except.map_eq_ok.mp hx
    exact h.claim hc
  | claimBroadcastCollectTxForReceipt leaseSeconds workerId chainId tokenAddress =>
    obtain ⟨⟨db₁, claim⟩, hc, rfl⟩ := Except.map_eq_ok.mp hx
    exact h.claim hc
  | reserveNonce chainId fromAddress pendingNonce =>
    obtain ⟨⟨db₁, nonce⟩, hc, rfl⟩ := Except.map_eq_ok.mp hx
    rw [(reserveNonce_eq_ok hc).1]
    exact h.of_eq rfl rfl rfl
  | insertSignedCollectTx collectionId tx amount =>
    obtain ⟨⟨db₁, row⟩, hc, rfl⟩ := Except.map_eq_ok.mp hx
    exact h.insert hc
  | markBroadcast txId =>
    obtain ⟨⟨db₁, row⟩, hc, rfl⟩ := Except.map_eq_ok.mp hx
    exact h.mark hc (fun _ => rfl) (fun _ => rfl) (fun _ => rfl) (fun _ => rfl) (fun _ => rfl)
      (fun _ _ => rfl)
  | replaceSignedTx oldTxId replacement =>
    obtain ⟨⟨db₁, row⟩, hc, rfl⟩ := Except.map_eq_ok.mp hx
    exact h.replace hc
  | markConfirmed txId receiptBlock =>
    obtain ⟨⟨db₁, row⟩, hc, rfl⟩ := Except.map_eq_ok.mp hx
    exact h.mark (markConfirmed_eq_ok.mp hc).2 (fun _ => rfl) (fun _ => rfl) (fun _ => rfl)
      (fun _ => rfl) (fun _ => rfl) (fun _ _ => rfl)
  | markFailed txId error =>
    obtain ⟨⟨db₁, row⟩, hc, rfl⟩ := Except.map_eq_ok.mp hx
    exact h.mark hc (fun _ => rfl) (fun _ => rfl) (fun _ => rfl) (fun _ => rfl) (fun _ => rfl)
      (fun _ _ => rfl)
  | setOrders orders =>
    obtain rfl := Except.ok.inj hx
    exact h.of_eq rfl rfl rfl
  | addChildAccount account => exact h.addAccount hx
  | setRoutes treasuryAddresses relayerAddresses =>
    obtain rfl := Except.ok.inj hx
    exact h.of_eq rfl rfl rfl

end CoherenceInv

/-- It holds before any collection. -/
theorem Empty.coherenceInv {db : CollectorDb} (h : Empty db) : CoherenceInv db := by
  constructor
  · rw [h.collections]; exact List.nodup_nil
  · rw [h.outbounds]; exact List.nodup_nil
  · rw [h.collections]; exact fun c hc => absurd hc List.not_mem_nil
  · rw [h.collections]; exact List.Pairwise.nil
  · rw [h.collections]; rfl
  · rw [h.collections]; exact fun c hc => absurd hc List.not_mem_nil
  · exact h.addresses

/-- One step, failed or not, keeps the invariant. -/
theorem CoherenceInv.step {db db' : CollectorDb} {a : Timestamp × CollectionCall}
    (h : CoherenceInv db) (hs : callStep db a = some db') : CoherenceInv db' := by
  unfold callStep at hs
  split at hs
  · rename_i db₁ hx
    obtain rfl := Option.some.inj hs
    exact h.call hx
  · obtain rfl := Option.some.inj hs
    exact h

/-! ## Every run -/

/-- **The tables agree after every sequence of calls**, in any order and with
any identifiers. -/
theorem coherent_of_run {db db' : CollectorDb} {calls : List (Timestamp × CollectionCall)}
    (hempty : Empty db) (hr : runSteps callStep db calls = some db') : Coherent db' :=
  (inv_of_run (I := CoherenceInv) (P := fun _ _ => True) (fun _ _ _ h _ hs => h.step hs)
    hempty.coherenceInv (stepsMeet_of_forall (fun _ _ => trivial) db calls) hr).coherent

section Witness

open SmallDeployment

/-- A signed transaction under a given identifier, nonce and hash. -/
def signedCollect (id : Uuid) (nonce : RawAmount) (txHash : TxHash) : NewSignedOutboundTx :=
  ⟨id, 1, .collect, 0xc1, 0x7e, nonce, 65000, 30, 2, txHash, [0x02], none, none⟩

/-- Two transactions are attached to one collection in turn; the first, left
without a collection, is replaced, and the second is sent, replaced and
confirmed. Marks of the ones left behind are refused. -/
def doubleAttach : List (Timestamp × CollectionCall) :=
  [(0, .createCollection command), (1, .insertSignedCollectTx 0xd1 (signedCollect 0xe0 0 0xf0) 500),
   (2, .insertSignedCollectTx 0xd1 (signedCollect 0xe1 1 0xf1) 500), (3, .markBroadcast 0xe0),
   (4, .replaceSignedTx 0xe0 (signedCollect 0xe2 0 0xf2)), (5, .markBroadcast 0xe1),
   (6, .replaceSignedTx 0xe1 (signedCollect 0xe3 1 0xf3)), (7, .markConfirmed 0xe1 ⟨1, 0x91⟩),
   (8, .markBroadcast 0xe3), (9, .markConfirmed 0xe3 ⟨1, 0x91⟩)]

/-- After all of it the collection is confirmed with the transaction that was
confirmed, and nothing else is attached. -/
theorem coherent_of_doubleAttach :
    ∃ db', runSteps callStep initial.db doubleAttach = some db'
      ∧ db'.collections.map (fun c => (c.status, c.outboundTxId)) = [(.confirmed, some 0xe3)]
      ∧ db'.outboundTransactions.map (fun o => (o.id, o.status))
        = [(0xe0, .replaced), (0xe1, .replaced), (0xe2, .signed), (0xe3, .confirmed)]
      ∧ Coherent db' := by
  have hrun : (runSteps callStep initial.db doubleAttach).map (fun d =>
      (d.collections.map (fun c => (c.status, c.outboundTxId)),
        d.outboundTransactions.map (fun o => (o.id, o.status))))
      = some ([(.confirmed, some 0xe3)],
        [(0xe0, .replaced), (0xe1, .replaced), (0xe2, .signed), (0xe3, .confirmed)]) := by decide
  obtain ⟨db', hdb', heq⟩ := Option.map_eq_some_iff.mp hrun
  obtain ⟨hcollections, houtbounds⟩ := Prod.mk.inj heq
  exact ⟨db', hdb', hcollections, houtbounds, coherent_of_run ⟨rfl, rfl, by decide⟩ hdb'⟩

end Witness

end CollectorDb
