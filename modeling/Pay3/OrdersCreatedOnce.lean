import Pay3.OrderRows
import Pay3.Runs
import Pay3.Tickets

/-!
# One order for one external id

Whatever the interleaving, an owner has at most one order under an external id,
and every request under it is answered from that order: with the order itself
when the request has its hash, and with a conflict otherwise. What a request can
meet instead is a failure of something it depends on, or a time to live that
leads out of the range of times.

The advisory lock is what turns a race into an answer: a request that has read
that there is no order holds the lock until it has committed, so nobody else can
commit one in between, and the unique index on owner and external id never has
to refuse a row. Segments are handed out by the cursor once each, so the segment
of an order is neither that of another order nor one that a request has taken and
lost.
-/

/-! ## The invariant -/

section Invariant

variable (keccak256 : List UInt8 → BitVec 256) (ryu : BitVec 64 → String)
  (hashtext : String → BitVec 32)

/-- The hash of a request. -/
def CreateRequest.hash (request : CreateRequest) : String :=
  canonicalOrderRequestHash keccak256 ryu request.input

/-- **Where a request can stand.** Under its lock it is alone, and once it has
read that there is no order it stays so; when it is about to answer with an
order, that order is the one of its key and its hash. -/
def CreatePc.Sound (db : LedgerDb) (locks : RowLocks (BitVec 32)) (t : ℕ) : CreatePc → Prop
  | .derive _ _ allocated => allocated.derivationPath = allocated.segment.derivationPath
  | .lock request command => command.OfRequest keccak256 ryu request
  | .read request command => command.OfRequest keccak256 ryu request
      ∧ locks (advisoryKey hashtext command.ownerSub command.externalId) = some t
  | .insert request command _ | .commit request command => command.OfRequest keccak256 ryu request
      ∧ locks (advisoryKey hashtext command.ownerSub command.externalId) = some t
      ∧ ∀ k ∈ db.orderKeys,
        ¬ (k.ownerSub = command.ownerSub ∧ k.externalId = command.externalId)
  | .view request _ orderId => ∃ k ∈ db.orderKeys, k.IsFor request
      ∧ k.requestHash = request.hash keccak256 ryu ∧ k.orderId = orderId
  | _ => True

/-- **What an answer says**: it is the order of the request's key and hash, or a
conflict with the order of its key and another hash, or a failure. -/
def AnswerSound (db : LedgerDb) (request : CreateRequest) : CreateAnswer → Prop
  | .ok (_, o, _) => ∃ k ∈ db.orderKeys, k.IsFor request
      ∧ k.requestHash = request.hash keccak256 ryu ∧ o ∈ db.payment.orders ∧ o.id = k.orderId
  | .error e => (∃ k ∈ db.orderKeys, k.IsFor request
      ∧ k.requestHash ≠ request.hash keccak256 ryu
      ∧ .error e = conflictAnswer request k.orderId) ∨ e.Fails

/-- A segment is below the one the cursor stands at. -/
def BelowCursor (cursor : Option WalletCursor) (segment : DerivationSegment) : Prop :=
  ∃ c, cursor = some c ∧ segment < c.segment

/-- The segments of the child accounts. -/
def LedgerDb.segments (db : LedgerDb) : List DerivationSegment :=
  db.collector.childAccounts.map ChildAccountRecord.derivationSegment

/-- **The invariant.** -/
structure OrderInv (s : OrderSystem) : Prop where
  unique : (s.db.uniqueKeys ++ s.pending.map Prod.snd).Nodup
  pending : ∀ t, (s.pending.filter (fun p => decide (p.1 = t))).map Prod.snd
    = (s.pcs t).pendingKeys
  rows : s.db.RowsStored
  sound : ∀ t, (s.pcs t).Sound keccak256 ryu hashtext s.db s.locks t
  segments : Tickets (BelowCursor s.cursor) (s.db.segments ++ s.burned)
    (fun t => (s.pcs t).segment)
  answers : ∀ a ∈ s.answers, AnswerSound keccak256 ryu s.db a.1 a.2

variable {keccak256 ryu hashtext} {s s' : OrderSystem} {t : ℕ} {pc : CreatePc}
  {request : CreateRequest} {command : CreateOrderCommand}

/-- A transaction that ends is not seen by the others. -/
theorem CreatePc.Sound.release {db : LedgerDb} {locks : RowLocks (BitVec 32)} {t' : ℕ}
    (h : pc.Sound keccak256 ryu hashtext db locks t') (hne : t' ≠ t) :
    pc.Sound keccak256 ryu hashtext db (locks.release t) t' := by
  cases pc with
  | read request command => exact ⟨h.1, RowLocks.held_of_release hne h.2⟩
  | insert request command stage => exact ⟨h.1, RowLocks.held_of_release hne h.2.1, h.2.2⟩
  | commit request command => exact ⟨h.1, RowLocks.held_of_release hne h.2.1, h.2.2⟩
  | _ => exact h

/-- Nor is one that takes a free lock. -/
theorem CreatePc.Sound.acquire {db : LedgerDb} {locks : RowLocks (BitVec 32)} {t' : ℕ}
    {key : BitVec 32} (h : pc.Sound keccak256 ryu hashtext db locks t')
    (hfree : locks.isFree t key = true) :
    pc.Sound keccak256 ryu hashtext db (locks.acquire t key) t' := by
  cases pc with
  | read request command => exact ⟨h.1, RowLocks.held_of_acquire hfree h.2⟩
  | insert request command stage => exact ⟨h.1, RowLocks.held_of_acquire hfree h.2.1, h.2.2⟩
  | commit request command => exact ⟨h.1, RowLocks.held_of_acquire hfree h.2.1, h.2.2⟩
  | _ => exact h

/-- The pcs of a system after one of them has changed. -/
theorem forall_update {P : ℕ → CreatePc → Prop} {pcs : ℕ → CreatePc} (hself : P t pc)
    (hothers : ∀ t', t' ≠ t → P t' (pcs t')) : ∀ t', P t' (Function.update pcs t pc t') := by
  intro t'
  by_cases ht : t' = t
  · rw [ht, Function.update_self]
    exact hself
  · rw [Function.update_of_ne ht]
    exact hothers t' ht

/-- The segments held, after a request has gone on. -/
theorem segment_update (pcs : ℕ → CreatePc) :
    (fun t' => (Function.update pcs t pc t').segment)
      = Function.update (fun t' => (pcs t').segment) t pc.segment := by
  funext t'
  by_cases ht : t' = t
  · rw [ht, Function.update_self, Function.update_self]
  · rw [Function.update_of_ne ht, Function.update_of_ne ht]

/-- **A request goes on** with what it has. -/
theorem OrderInv.goto (h : OrderInv keccak256 ryu hashtext s)
    (hsegment : pc.segment = (s.pcs t).segment) (hkeys : pc.pendingKeys = (s.pcs t).pendingKeys)
    (hsound : pc.Sound keccak256 ryu hashtext s.db s.locks t) :
    OrderInv keccak256 ryu hashtext (s.goto t pc) where
  unique := h.unique
  pending := forall_update (P := fun t' pc' => _ = pc'.pendingKeys)
    ((h.pending t).trans hkeys.symm) (fun t' _ => h.pending t')
  rows := h.rows
  sound := forall_update (P := fun t' pc' => pc'.Sound keccak256 ryu hashtext s.db s.locks t')
    hsound (fun t' _ => h.sound t')
  segments := by
    show Tickets _ _ (fun t' => (Function.update s.pcs t pc t').segment)
    rw [segment_update, hsegment, Function.update_eq_self]
    exact h.segments
  answers := h.answers

/-- The index entries of the others, after a transaction has ended. -/
theorem filter_endTx (pending : List (ℕ × UniqueKey)) (t t' : ℕ) :
    ((pending.filter (fun p => decide (p.1 ≠ t))).filter (fun p => decide (p.1 = t')))
      = if t' = t then [] else pending.filter (fun p => decide (p.1 = t')) := by
  rw [List.filter_filter]
  split_ifs with ht
  · rw [List.filter_eq_nil_iff]
    intro p _
    simp [ht]
  · refine List.filter_congr (fun p _ => ?_)
    by_cases hp : p.1 = t'
    · simp [hp, ht]
    · simp [hp]

/-- **A request goes on without its segment and its transaction.** -/
theorem OrderInv.abandon (h : OrderInv keccak256 ryu hashtext s) (hsegment : pc.segment = none)
    (hkeys : pc.pendingKeys = [])
    (hsound : ∀ locks, pc.Sound keccak256 ryu hashtext s.db locks t) :
    OrderInv keccak256 ryu hashtext (s.abandon t pc) where
  unique := by
    refine List.Nodup.sublist ?_ h.unique
    exact List.Sublist.append_left (List.Sublist.map _ List.filter_sublist) _
  pending := by
    intro t'
    show (List.filter _ (s.pending.filter _)).map Prod.snd = (Function.update s.pcs t pc t').pendingKeys
    rw [filter_endTx]
    by_cases ht : t' = t
    · rw [if_pos ht, ht, Function.update_self, hkeys]
      rfl
    · rw [if_neg ht, Function.update_of_ne ht, h.pending]
  rows := h.rows
  sound := forall_update
    (P := fun t' pc' => pc'.Sound keccak256 ryu hashtext s.db (s.locks.release t) t')
    (hsound _) (fun t' ht => (h.sound t').release ht)
  segments := by
    show Tickets _ (s.db.segments ++ (s.burned ++ (s.pcs t).segment.toList))
      (fun t' => (Function.update s.pcs t pc t').segment)
    rw [segment_update, hsegment, ← List.append_assoc]
    exact h.segments.drop
  answers := h.answers

/-- **A request is answered.** -/
theorem OrderInv.answer (h : OrderInv keccak256 ryu hashtext s) {a : CreateAnswer}
    (ha : AnswerSound keccak256 ryu s.db request a) :
    OrderInv keccak256 ryu hashtext (s.answer t request a) := by
  have habandon : OrderInv keccak256 ryu hashtext (s.abandon t .idle) :=
    h.abandon rfl rfl (fun _ => trivial)
  refine ⟨habandon.unique, habandon.pending, habandon.rows, habandon.sound, habandon.segments,
    fun b hb => ?_⟩
  rcases List.mem_append.mp hb with hb | hb
  · exact h.answers b hb
  · rw [List.mem_singleton.mp hb]
    exact ha

/-- **A segment is allocated.** -/
theorem OrderInv.allocate (h : OrderInv keccak256 ryu hashtext s) {block : ChainBlockRef}
    {a : AllocatedDerivation} {cursor' : WalletCursor}
    (hpc : s.pcs t = .allocate request block)
    (hallocate : allocateDerivationSegment defaultWalletCursorId s.cursor = .ok (a, cursor')) :
    OrderInv keccak256 ryu hashtext
      { s.goto t (.derive request block a) with cursor := some cursor' } := by
  obtain ⟨cursor, hcursor, rfl, hcov⟩ := allocateDerivationSegment_eq_ok hallocate
  refine ⟨h.unique, ?_, h.rows, ?_, ?_, h.answers⟩
  · exact forall_update (P := fun t' pc' => _ = pc'.pendingKeys)
      ((h.pending t).trans (by rw [hpc]; rfl)) (fun t' _ => h.pending t')
  · exact forall_update
      (P := fun t' pc' => pc'.Sound keccak256 ryu hashtext s.db s.locks t') rfl
      (fun t' _ => h.sound t')
  · show Tickets (BelowCursor (some cursor')) _ (fun t' => (Function.update s.pcs t _ t').segment)
    rw [segment_update]
    refine h.segments.take (fun segment hbelow => ?_) ?_ ⟨cursor', rfl, hcov.lt⟩
    · obtain ⟨c, hc, hlt⟩ := hbelow
      rw [hcursor] at hc
      exact ⟨cursor', rfl, lt_trans (Option.some.inj hc ▸ hlt) hcov.lt⟩
    · rintro ⟨c, hc, hlt⟩
      rw [hcursor] at hc
      rw [← Option.some.inj hc] at hlt
      exact lt_irrefl _ hlt

/-- **The advisory lock is taken.** -/
theorem OrderInv.lock (h : OrderInv keccak256 ryu hashtext s)
    (hpc : s.pcs t = .lock request command)
    (hfree : s.locks.isFree t (advisoryKey hashtext command.ownerSub command.externalId) = true) :
    OrderInv keccak256 ryu hashtext { s.goto t (.read request command) with
      locks := s.locks.acquire t (advisoryKey hashtext command.ownerSub command.externalId) } := by
  have hof := h.sound t
  rw [hpc] at hof
  refine ⟨h.unique, ?_, h.rows, ?_, ?_, h.answers⟩
  · exact forall_update (P := fun t' pc' => _ = pc'.pendingKeys)
      ((h.pending t).trans (by rw [hpc]; rfl)) (fun t' _ => h.pending t')
  · exact forall_update
      (P := fun t' pc' => pc'.Sound keccak256 ryu hashtext s.db (s.locks.acquire t _) t')
      ⟨hof, RowLocks.acquire_self _ _ _⟩ (fun t' _ => (h.sound t').acquire hfree)
  · show Tickets _ _ (fun t' => (Function.update s.pcs t _ t').segment)
    rw [segment_update]
    have hsegment : (CreatePc.read request command).segment = (s.pcs t).segment := by rw [hpc]; rfl
    rw [hsegment, Function.update_eq_self]
    exact h.segments

/-- The index entries of each, after an insert. -/
theorem filter_insert (pending : List (ℕ × UniqueKey)) (keys : List UniqueKey) (t t' : ℕ) :
    ((pending ++ keys.map (fun k => (t, k))).filter (fun p => decide (p.1 = t'))).map Prod.snd
      = (pending.filter (fun p => decide (p.1 = t'))).map Prod.snd
        ++ if t' = t then keys else [] := by
  rw [List.filter_append, List.map_append]
  congr 1
  split_ifs with ht
  · rw [List.filter_eq_self.mpr (by simp [ht]), List.map_map]
    exact List.map_id _
  · rw [List.filter_eq_nil_iff.mpr (by simp [Ne.symm ht])]
    rfl

/-- **A row is inserted**, and not committed. -/
theorem OrderInv.insert (h : OrderInv keccak256 ryu hashtext s) {stage : InsertStage}
    (hpc : s.pcs t = .insert request command stage)
    (hcheck : command.checkInsert s.db stage = .ok ())
    (hfree : (command.insertKeys stage).all (fun k => decide (k ∉ s.pending.map Prod.snd)) = true) :
    OrderInv keccak256 ryu hashtext { s.goto t (.afterInsert request command stage) with
      pending := s.pending ++ (command.insertKeys stage).map (fun k => (t, k)) } := by
  have hsound := h.sound t
  have hkeys := h.pending t
  rw [hpc] at hsound hkeys
  refine ⟨?_, ?_, h.rows, ?_, ?_, h.answers⟩
  · have hsnd : ((command.insertKeys stage).map (fun k => (t, k))).map Prod.snd
        = command.insertKeys stage := by
      rw [List.map_map]
      exact List.map_id _
    show (s.db.uniqueKeys ++ (s.pending ++ _).map Prod.snd).Nodup
    rw [List.map_append, hsnd, ← List.append_assoc]
    refine List.nodup_append'.mpr ⟨h.unique, ?_, fun k hk hk' => ?_⟩
    · cases stage <;> simp [CreateOrderCommand.insertKeys, ChildAccountRecord.uniqueKeys]
    · rcases List.mem_append.mp hk with hk | hk
      · exact insertKeys_fresh hcheck k hk' hk
      · exact of_decide_eq_true (List.all_eq_true.mp hfree k hk') hk
  · refine forall_update (P := fun t' pc' => _ = pc'.pendingKeys) ?_ (fun t' ht => ?_)
    · rw [filter_insert, if_pos rfl, hkeys]
      cases stage <;> rfl
    · rw [filter_insert, if_neg ht, List.append_nil, h.pending]
  · refine forall_update
      (P := fun t' pc' => pc'.Sound keccak256 ryu hashtext s.db s.locks t') ?_
      (fun t' _ => h.sound t')
    cases stage <;> exact hsound
  · show Tickets _ _ (fun t' => (Function.update s.pcs t _ t').segment)
    have hsegment : (CreatePc.afterInsert request command stage).segment = (s.pcs t).segment := by
      rw [hpc]
      cases stage <;> rfl
    rw [segment_update, hsegment, Function.update_eq_self]
    exact h.segments

/-- The rows of a new order are stored together. -/
theorem LedgerDb.RowsStored.withOrder {db : LedgerDb} (h : db.RowsStored)
    (command : CreateOrderCommand) : (db.withOrder command).RowsStored := by
  refine ⟨fun o ho => ?_, fun k hk => ?_, fun o ho => ?_⟩
  · rcases List.mem_append.mp ho with ho | ho
    · obtain ⟨a, ha, heq⟩ := h.account o ho
      exact ⟨a, List.mem_append_left _ ha, heq⟩
    · rw [List.mem_singleton.mp ho]
      exact ⟨command.childAccount, List.mem_append_right _ (List.mem_singleton_self _), rfl, rfl⟩
  · rcases List.mem_append.mp hk with hk | hk
    · obtain ⟨o, ho, heq⟩ := h.order k hk
      exact ⟨o, List.mem_append_left _ ho, heq⟩
    · rw [List.mem_singleton.mp hk]
      exact ⟨newOrder command, List.mem_append_right _ (List.mem_singleton_self _), rfl⟩
  · rcases List.mem_append.mp ho with ho | ho
    · obtain ⟨w, hw, heq⟩ := h.window o ho
      exact ⟨w, List.mem_append_left _ hw, heq⟩
    · rw [List.mem_singleton.mp ho]
      exact ⟨newPaymentWindow command, List.mem_append_right _ (List.mem_singleton_self _), rfl⟩

/-- What an answer says stays true. -/
theorem AnswerSound.withOrder {db : LedgerDb} {a : CreateAnswer}
    (h : AnswerSound keccak256 ryu db request a) (command : CreateOrderCommand) :
    AnswerSound keccak256 ryu (db.withOrder command) request a := by
  cases a with
  | ok r =>
    obtain ⟨k, hk, hfor, hhash, ho, hid⟩ := h
    exact ⟨k, List.mem_append_left _ hk, hfor, hhash, List.mem_append_left _ ho, hid⟩
  | error e =>
    rcases h with ⟨k, hk, hrest⟩ | hfails
    · exact Or.inl ⟨k, List.mem_append_left _ hk, hrest⟩
    · exact Or.inr hfails

/-- **The others do not see a commit but for the new order**: none of them is
under the lock of its key. -/
theorem CreatePc.Sound.withOrder {db : LedgerDb} {locks : RowLocks (BitVec 32)} {t' : ℕ}
    (h : pc.Sound keccak256 ryu hashtext db locks t') (hne : t' ≠ t)
    (hlock : locks (advisoryKey hashtext command.ownerSub command.externalId) = some t) :
    pc.Sound keccak256 ryu hashtext (db.withOrder command) locks t' := by
  have hnone : ∀ other : CreateOrderCommand,
      locks (advisoryKey hashtext other.ownerSub other.externalId) = some t' →
      (∀ k ∈ db.orderKeys, ¬ (k.ownerSub = other.ownerSub ∧ k.externalId = other.externalId)) →
      ∀ k ∈ (db.withOrder command).orderKeys,
        ¬ (k.ownerSub = other.ownerSub ∧ k.externalId = other.externalId) := by
    intro other hother hold k hk
    rcases List.mem_append.mp hk with hk | hk
    · exact hold k hk
    · rw [List.mem_singleton.mp hk]
      rintro ⟨howner, hexternal⟩
      change command.ownerSub = _ at howner
      change command.externalId = _ at hexternal
      rw [← howner, ← hexternal, hlock] at hother
      exact hne (Option.some.inj hother).symm
  cases pc with
  | insert request other stage => exact ⟨h.1, h.2.1, hnone other h.2.1 h.2.2⟩
  | commit request other => exact ⟨h.1, h.2.1, hnone other h.2.1 h.2.2⟩
  | view request outcome orderId =>
    obtain ⟨k, hk, hrest⟩ := h
    exact ⟨k, List.mem_append_left _ hk, hrest⟩
  | _ => exact h

/-- The read at the end of the inserts finds the new order. -/
theorem readCreated_eq_ok {db : LedgerDb} {order : OrderRecord}
    (h : command.readCreated db = .ok order) : order.id = command.orderId := by
  obtain ⟨row, hrow, h⟩ := Except.bind_eq_ok.mp h
  rw [orError_eq_ok.mp h] at hrow
  exact (fetchOrderByIdTx_eq_some hrow).2

/-- **An order is committed.** -/
theorem OrderInv.commit (h : OrderInv keccak256 ryu hashtext s) {order : OrderRecord}
    (hpc : s.pcs t = .commit request command) (hread : command.readCreated s.db = .ok order) :
    OrderInv keccak256 ryu hashtext { s.endTx t with
      db := s.db.withOrder command
      pcs := Function.update s.pcs t (.view request .created order.id) } := by
  have hsound := h.sound t
  have hkeys := h.pending t
  rw [hpc] at hsound hkeys
  obtain ⟨hof, hlock, -⟩ := hsound
  refine ⟨?_, ?_, h.rows.withOrder command, ?_, ?_, fun a ha => (h.answers a ha).withOrder command⟩
  · -- the entries of the rows move from the pending to the committed ones
    have hsplit : (s.pending.map Prod.snd).Perm (command.allKeys
        ++ (s.pending.filter (fun p => decide (p.1 ≠ t))).map Prod.snd) := by
      have hfilter := (List.filter_append_perm (fun p : ℕ × UniqueKey => decide (p.1 = t))
        s.pending).map Prod.snd
      rw [List.map_append, hkeys] at hfilter
      refine hfilter.symm.trans (List.Perm.append_left _ (List.Perm.of_eq ?_))
      exact congrArg (List.map Prod.snd) (List.filter_congr (fun p _ => by simp))
    have hperm : ((s.db.withOrder command).uniqueKeys
        ++ (s.pending.filter (fun p => decide (p.1 ≠ t))).map Prod.snd).Perm
          (s.db.uniqueKeys ++ s.pending.map Prod.snd) := by
      refine (List.Perm.append_right _ uniqueKeys_withOrder).trans ?_
      rw [List.append_assoc]
      exact List.Perm.append_left _ hsplit.symm
    exact hperm.nodup_iff.mpr h.unique
  · intro t'
    show (List.filter _ (s.pending.filter _)).map Prod.snd
      = (Function.update s.pcs t _ t').pendingKeys
    rw [filter_endTx]
    by_cases ht : t' = t
    · rw [if_pos ht, ht, Function.update_self]
      rfl
    · rw [if_neg ht, Function.update_of_ne ht, h.pending]
  · refine forall_update (P := fun t' pc' => pc'.Sound keccak256 ryu hashtext
      (s.db.withOrder command) (s.locks.release t) t') ?_
      (fun t' ht => ((h.sound t').withOrder ht hlock).release ht)
    exact ⟨newOrderKey command, List.mem_append_right _ (List.mem_singleton_self _),
      ⟨hof.ownerSub, hof.externalId⟩, hof.requestHash, (readCreated_eq_ok hread).symm⟩
  · show Tickets _ ((s.db.withOrder command).segments ++ s.burned)
      (fun t' => (Function.update s.pcs t _ t').segment)
    rw [segment_update]
    have hdrop := h.segments.drop (t := t)
    rw [hpc] at hdrop
    refine hdrop.perm ?_
    show (s.db.segments ++ s.burned ++ [command.childAccount.derivationSegment]).Perm
      ((s.db.collector.childAccounts ++ [command.childAccount]).map
        ChildAccountRecord.derivationSegment ++ s.burned)
    rw [List.map_append, List.append_assoc, List.append_assoc]
    exact List.Perm.append_left _ List.perm_append_comm

/-! ## Every step -/

/-- The first read of a request. -/
theorem OrderInv.stepLookup (h : OrderInv keccak256 ryu hashtext s)
    (hpc : s.pcs t = .lookup request) :
    OrderInv keccak256 ryu hashtext (s.stepLookup keccak256 ryu t request) := by
  unfold OrderSystem.stepLookup
  split
  · rename_i e he
    exact h.answer (Or.inr (invariantViolation_fails (fetchOrderByExternalIdTx_eq_error he)))
  · exact h.goto (by rw [hpc]; rfl) (by rw [hpc]; rfl) trivial
  · rename_i k o hfound
    obtain ⟨hk, hexternal, howner, ho, hid⟩ := fetchOrderByExternalIdTx_eq_some hfound
    split
    · rename_i hhash
      exact h.goto (by rw [hpc]; rfl) (by rw [hpc]; rfl) ⟨k, hk, ⟨howner, hexternal⟩, hhash, hid.symm⟩
    · rename_i hhash
      exact h.answer (Or.inl ⟨k, hk, ⟨howner, hexternal⟩, hhash, by rw [hid]; rfl⟩)

/-- The read under the lock. -/
theorem OrderInv.stepRead (h : OrderInv keccak256 ryu hashtext s)
    (hpc : s.pcs t = .read request command) :
    OrderInv keccak256 ryu hashtext (s.stepRead t request command) := by
  have hsound := h.sound t
  rw [hpc] at hsound
  obtain ⟨hof, hlock⟩ := hsound
  unfold OrderSystem.stepRead
  split
  · rename_i e he
    exact h.answer (Or.inr (invariantViolation_fails (fetchOrderByExternalIdTx_eq_error he)))
  · rename_i hnone
    exact h.goto (by rw [hpc]; rfl) (by rw [hpc]; rfl)
      ⟨hof, hlock, fetchOrderByExternalIdTx_eq_none h.rows hnone⟩
  · rename_i k o hfound
    obtain ⟨hk, hexternal, howner, ho, hid⟩ := fetchOrderByExternalIdTx_eq_some hfound
    have hfor : k.IsFor request := ⟨howner.trans hof.ownerSub, hexternal.trans hof.externalId⟩
    split
    · rename_i hhash
      exact h.abandon rfl rfl (fun _ => ⟨k, hk, hfor, hhash.trans hof.requestHash, hid.symm⟩)
    · rename_i hhash
      exact h.answer (Or.inl ⟨k, hk, hfor, fun heq => hhash (heq.trans hof.requestHash.symm),
        by rw [hid]; rfl⟩)

/-- The view that is answered with. -/
theorem OrderInv.stepView (h : OrderInv keccak256 ryu hashtext s)
    {outcome : CreateOrderServiceOutcome} {orderId : Uuid}
    (hpc : s.pcs t = .view request outcome orderId) :
    OrderInv keccak256 ryu hashtext (s.stepView t request outcome orderId) := by
  have hsound := h.sound t
  rw [hpc] at hsound
  obtain ⟨k, hk, hfor, hhash, rfl⟩ := hsound
  unfold OrderSystem.stepView
  split
  · rename_i e he
    exact h.answer (Or.inr (invariantViolation_fails (orderView_eq_error he)))
  · rename_i hnone
    obtain ⟨o, ho, hid⟩ := h.rows.order k hk
    rw [← hid] at hnone
    exact absurd hnone (orderView_ne_none h.rows ho)
  · rename_i o w hview
    obtain ⟨ho, hid, -⟩ := orderView_eq_some hview
    exact h.answer ⟨k, hk, hfor, hhash, ho, hid⟩

/-- **Every step keeps the invariant.** -/
theorem OrderInv.step (h : OrderInv keccak256 ryu hashtext s) {a : CreateAction}
    (hst : s.step keccak256 ryu hashtext a = some s') : OrderInv keccak256 ryu hashtext s' := by
  cases a with
  | call t config ownerSub input =>
    simp only [OrderSystem.step] at hst
    split at hst
    · rename_i request hpc _
      rw [← Option.some.inj hst]
      exact h.goto (by rw [hpc]; rfl) (by rw [hpc]; rfl) trivial
    · cases hst
  | lookup t =>
    simp only [OrderSystem.step] at hst
    split at hst
    · rename_i request hpc
      rw [← Option.some.inj hst]
      exact h.stepLookup hpc
    · cases hst
  | head t answer =>
    simp only [OrderSystem.step] at hst
    split at hst
    · rename_i request hpc
      split at hst
      · rw [← Option.some.inj hst]
        exact h.answer (Or.inr (Or.inl rfl))
      · rw [← Option.some.inj hst]
        exact h.goto (by rw [hpc]; rfl) (by rw [hpc]; rfl) trivial
    · cases hst
  | allocate t =>
    simp only [OrderSystem.step] at hst
    split at hst
    · rename_i request block hpc
      rw [← Option.some.inj hst]
      unfold OrderSystem.stepAllocate
      split
      · rename_i e he
        exact h.answer (Or.inr (allocateDerivationSegment_failsOnly _ _ e he))
      · exact h.allocate hpc ‹_›
    · cases hst
  | derive t answer now ids =>
    simp only [OrderSystem.step] at hst
    split at hst
    · rename_i request block allocated hpc
      rw [← Option.some.inj hst]
      have hsound := h.sound t
      rw [hpc] at hsound
      unfold OrderSystem.stepDerive
      split
      · rename_i e he
        exact h.answer (Or.inr (ofCommand_fails (createOrderCommand_failsOnly hsound e he)))
      · rename_i command hcommand
        obtain ⟨hof, -, hsegment, -⟩ := createOrderCommand_eq_ok hcommand
        exact h.goto (by rw [hpc]; exact congrArg some hsegment) (by rw [hpc]; rfl) hof
    · cases hst
  | lock t =>
    simp only [OrderSystem.step] at hst
    split at hst
    · rename_i request command hpc
      split_ifs at hst with hfree
      rw [← Option.some.inj hst]
      exact h.lock hpc hfree
    · cases hst
  | read t =>
    simp only [OrderSystem.step] at hst
    split at hst
    · rename_i request command hpc
      rw [← Option.some.inj hst]
      exact h.stepRead hpc
    · cases hst
  | insert t =>
    simp only [OrderSystem.step] at hst
    split at hst
    · rename_i request command stage hpc
      have hsound := h.sound t
      rw [hpc] at hsound
      unfold OrderSystem.stepInsert at hst
      split at hst
      · rename_i e he
        rw [← Option.some.inj hst]
        exact h.answer (Or.inr (checkInsert_failsOnly stage hsound.2.2 e he))
      · split_ifs at hst with hfree
        rw [← Option.some.inj hst]
        exact h.insert hpc ‹_› hfree
    · cases hst
  | commit t =>
    simp only [OrderSystem.step] at hst
    split at hst
    · rename_i request command hpc
      rw [← Option.some.inj hst]
      unfold OrderSystem.stepCommit
      split
      · rename_i e he
        exact h.answer (Or.inr (readCreated_failsOnly e he))
      · exact h.commit hpc ‹_›
    · cases hst
  | view t =>
    simp only [OrderSystem.step] at hst
    split at hst
    · rename_i request outcome orderId hpc
      rw [← Option.some.inj hst]
      exact h.stepView hpc
    · cases hst
  | crash t =>
    simp only [OrderSystem.step] at hst
    split at hst
    · cases hst
    · rw [← Option.some.inj hst]
      exact h.abandon rfl rfl (fun _ => trivial)

/-! ## Any interleaving -/

/-- **A database at rest**: no request is running and none has been answered.
The rows are as the indexes and the foreign keys of the tables have them, and
the cursor is past the segments that were stored. -/
structure OrderSystem.Initial (s : OrderSystem) : Prop where
  unlocked : ∀ key, s.locks key = none
  idle : ∀ t, s.pcs t = .idle
  pending : s.pending = []
  burned : s.burned = []
  answers : s.answers = []
  unique : s.db.uniqueKeys.Nodup
  rows : s.db.RowsStored
  segments : s.db.segments.Nodup
  below : ∀ segment ∈ s.db.segments, BelowCursor s.cursor segment

theorem OrderSystem.Initial.inv (h : s.Initial) : OrderInv keccak256 ryu hashtext s where
  unique := by
    rw [h.pending, List.map_nil, List.append_nil]
    exact h.unique
  pending := fun t => by
    rw [h.pending, h.idle]
    rfl
  rows := h.rows
  sound := fun t => by
    rw [h.idle]
    trivial
  segments := by
    have hnone : ∀ t x, (s.pcs t).segment ≠ some x := fun t x hx => by
      rw [h.idle] at hx
      cases hx
    rw [h.burned, List.append_nil]
    exact ⟨h.segments, h.below, fun t x hx => absurd hx (hnone t x),
      fun t x hx => absurd hx (hnone t x), fun t _ x hx => absurd hx (hnone t x)⟩
  answers := by
    rw [h.answers]
    exact fun a ha => by cases ha

theorem OrderInv.run (h : OrderInv keccak256 ryu hashtext s) {as : List CreateAction}
    (hrun : runSteps (OrderSystem.step keccak256 ryu hashtext) s as = some s') :
    OrderInv keccak256 ryu hashtext s' :=
  inv_of_run (P := fun _ _ => True) (fun _ _ _ hI _ hst => hI.step hst) h
    (stepsMeet_of_forall (fun _ _ => trivial) _ _) hrun

/-- **What a step does to the database**: nothing, unless it is the commit of an
order. -/
theorem db_step {a : CreateAction} (hst : s.step keccak256 ryu hashtext a = some s') :
    s'.db = s.db ∨ ∃ request command, s.pcs a.slot = .commit request command
      ∧ s'.db = s.db.withOrder command := by
  cases a with
  | commit t =>
    simp only [OrderSystem.step, OrderSystem.stepCommit] at hst
    split at hst
    · rename_i request command hpc
      rw [← Option.some.inj hst]
      split
      · exact Or.inl rfl
      · exact Or.inr ⟨request, command, hpc, rfl⟩
    · cases hst
  | insert t =>
    simp only [OrderSystem.step, OrderSystem.stepInsert] at hst
    split at hst
    · split at hst
      · rw [← Option.some.inj hst]
        exact Or.inl rfl
      · split_ifs at hst
        rw [← Option.some.inj hst]
        exact Or.inl rfl
    · cases hst
  | lock t =>
    simp only [OrderSystem.step] at hst
    split at hst
    · split_ifs at hst
      rw [← Option.some.inj hst]
      exact Or.inl rfl
    · cases hst
  | call t config ownerSub input =>
    simp only [OrderSystem.step] at hst
    split at hst
    · rw [← Option.some.inj hst]
      exact Or.inl rfl
    · cases hst
  | crash t =>
    simp only [OrderSystem.step] at hst
    split at hst
    · cases hst
    · rw [← Option.some.inj hst]
      exact Or.inl rfl
  | head t answer =>
    simp only [OrderSystem.step] at hst
    split at hst
    · split at hst <;>
      · rw [← Option.some.inj hst]
        exact Or.inl rfl
    · cases hst
  | _ =>
    simp only [OrderSystem.step, OrderSystem.stepLookup, OrderSystem.stepAllocate,
      OrderSystem.stepDerive, OrderSystem.stepRead, OrderSystem.stepView] at hst
    split at hst
    · rw [← Option.some.inj hst]
      repeat' split
      all_goals exact Or.inl rfl
    · cases hst

variable (keccak256 ryu hashtext) in
/-- **Orders are created once.** -/
structure OrderSystem.CreatedOnce (s : OrderSystem) : Prop where
  /-- There is at most one order for an owner and an external id. -/
  one_row : (s.db.orderKeys.map (fun k => (k.ownerSub, k.externalId))).Nodup
  /-- A request with the hash of the order is answered with the order. -/
  same_hash : ∀ a ∈ s.answers, ∀ k ∈ s.db.orderKeys, k.IsFor a.1
    → k.requestHash = a.1.hash keccak256 ryu
    → (∃ outcome o w, a.2 = .ok (outcome, o, w) ∧ o ∈ s.db.payment.orders ∧ o.id = k.orderId)
      ∨ ∃ e, a.2 = .error e ∧ e.Fails
  /-- A request with another hash is answered with a conflict. -/
  other_hash : ∀ a ∈ s.answers, ∀ k ∈ s.db.orderKeys, k.IsFor a.1
    → k.requestHash ≠ a.1.hash keccak256 ryu
    → a.2 = conflictAnswer a.1 k.orderId ∨ ∃ e, a.2 = .error e ∧ e.Fails
  /-- No step of a request with another hash changes the database. -/
  unchanged : ∀ a s', s.step keccak256 ryu hashtext a = some s'
    → ∀ request, (s.pcs a.slot).request = some request
    → ∀ k ∈ s'.db.orderKeys, k.IsFor request → k.requestHash ≠ request.hash keccak256 ryu
    → s'.db = s.db
  /-- No two orders receive at one address. -/
  addresses : (s.db.payment.orders.map OrderRecord.receiveAddress).Nodup
  /-- No two orders have child accounts at one segment. -/
  segments : ∀ o ∈ s.db.payment.orders, ∀ o' ∈ s.db.payment.orders,
    ∀ a ∈ s.db.collector.childAccounts, ∀ a' ∈ s.db.collector.childAccounts,
    a.id = o.childAccountId → a'.id = o'.childAccountId
    → a.derivationSegment = a'.derivationSegment → o = o'
  /-- No child account is at a segment that a request has taken and lost. -/
  burned : ∀ a ∈ s.db.collector.childAccounts, a.derivationSegment ∉ s.burned

/-- The indexes hold one entry of each kind for each order. -/
theorem OrderInv.keys_nodup (h : OrderInv keccak256 ryu hashtext s) :
    (s.db.orderKeys.map (fun k => (k.ownerSub, k.externalId))).Nodup := by
  have hnodup := (List.nodup_append'.mp h.unique).1
  have hkeys := (List.nodup_append'.mp (List.nodup_append'.mp (List.nodup_append'.mp
    hnodup).2.1).2.1).1
  refine nodup_map_of_flatMap hkeys (fun k k' heq => ⟨.orderExternal k.ownerSub k.externalId, ?_, ?_⟩)
  · exact List.mem_cons_self
  · obtain ⟨howner, hexternal⟩ := Prod.mk.inj heq
    rw [howner, hexternal]
    exact List.mem_cons_self

theorem OrderInv.addresses_nodup (h : OrderInv keccak256 ryu hashtext s) :
    (s.db.payment.orders.map OrderRecord.receiveAddress).Nodup := by
  have hnodup := (List.nodup_append'.mp h.unique).1
  have horders := (List.nodup_append'.mp (List.nodup_append'.mp hnodup).2.1).1
  refine nodup_map_of_flatMap horders (fun o o' heq => ⟨.orderAddress o.receiveAddress, ?_, ?_⟩)
  · exact List.mem_cons_of_mem _ List.mem_cons_self
  · rw [heq]
    exact List.mem_cons_of_mem _ List.mem_cons_self

theorem OrderInv.accounts_nodup (h : OrderInv keccak256 ryu hashtext s) :
    (s.db.collector.childAccounts.map ChildAccountRecord.id).Nodup := by
  have hnodup := (List.nodup_append'.mp h.unique).1
  refine nodup_map_of_flatMap (List.nodup_append'.mp hnodup).1
    (fun a a' heq => ⟨.accountId a.id, List.mem_cons_self, ?_⟩)
  rw [heq]
  exact List.mem_cons_self

/-- The account of an order has the address of the order. -/
theorem OrderInv.account_address (h : OrderInv keccak256 ryu hashtext s) {o : OrderRecord}
    {a : ChildAccountRecord} (ho : o ∈ s.db.payment.orders) (ha : a ∈ s.db.collector.childAccounts)
    (hid : a.id = o.childAccountId) : a.address = o.receiveAddress := by
  obtain ⟨b, hb, hbid, haddress⟩ := h.rows.account o ho
  obtain rfl := List.inj_on_of_nodup_map h.accounts_nodup ha hb (hid.trans hbid.symm)
  exact haddress

/-- So there is one row for a request. -/
theorem OrderInv.key_unique (h : OrderInv keccak256 ryu hashtext s) {k k' : OrderKeyRecord}
    (hk : k ∈ s.db.orderKeys) (hk' : k' ∈ s.db.orderKeys) (hfor : k.IsFor request)
    (hfor' : k'.IsFor request) : k = k' :=
  List.inj_on_of_nodup_map h.keys_nodup hk hk'
    (Prod.ext (hfor.1.trans hfor'.1.symm) (hfor.2.trans hfor'.2.symm))

theorem OrderInv.createdOnce (h : OrderInv keccak256 ryu hashtext s) :
    s.CreatedOnce keccak256 ryu hashtext where
  one_row := h.keys_nodup
  same_hash := by
    rintro ⟨request, answer⟩ ha k hk hfor hhash
    have hsound := h.answers _ ha
    cases answer with
    | ok r =>
      obtain ⟨k', hk', hfor', -, ho, hid⟩ := hsound
      obtain rfl := h.key_unique hk hk' hfor hfor'
      exact Or.inl ⟨r.1, r.2.1, r.2.2, rfl, ho, hid⟩
    | error e =>
      rcases hsound with ⟨k', hk', hfor', hne, -⟩ | hfails
      · obtain rfl := h.key_unique hk hk' hfor hfor'
        exact absurd hhash hne
      · exact Or.inr ⟨e, rfl, hfails⟩
  other_hash := by
    rintro ⟨request, answer⟩ ha k hk hfor hne
    have hsound := h.answers _ ha
    cases answer with
    | ok r =>
      obtain ⟨k', hk', hfor', hhash, -⟩ := hsound
      obtain rfl := h.key_unique hk hk' hfor hfor'
      exact absurd hhash hne
    | error e =>
      rcases hsound with ⟨k', hk', hfor', -, hconflict⟩ | hfails
      · obtain rfl := h.key_unique hk hk' hfor hfor'
        exact Or.inl hconflict
      · exact Or.inr ⟨e, rfl, hfails⟩
  unchanged := by
    intro a s' hst request hrequest k hk hfor hne
    rcases db_step hst with hsame | ⟨request', command, hpc, hdb⟩
    · exact hsame
    · rw [hpc] at hrequest
      obtain rfl := Option.some.inj hrequest
      have hsound := h.sound a.slot
      rw [hpc] at hsound
      have hof := hsound.1
      -- the order that is committed has the hash of the request
      have hnew : newOrderKey command ∈ s'.db.orderKeys := by
        rw [hdb]
        exact List.mem_append_right _ (List.mem_singleton_self _)
      have hforNew : (newOrderKey command).IsFor request' := ⟨hof.ownerSub, hof.externalId⟩
      obtain rfl := (h.step hst).key_unique hk hnew hfor hforNew
      exact absurd hof.requestHash hne
  addresses := h.addresses_nodup
  segments := by
    intro o ho o' ho' a ha a' ha' hid hid' hsegment
    have hnodup := (List.nodup_append'.mp h.segments.used_nodup).1
    obtain rfl := List.inj_on_of_nodup_map hnodup ha ha' hsegment
    exact List.inj_on_of_nodup_map h.addresses_nodup ho ho'
      ((h.account_address ho ha hid).symm.trans (h.account_address ho' ha hid'))
  burned := by
    intro a ha hmem
    exact (List.nodup_append'.mp h.segments.used_nodup).2.2 (List.mem_map_of_mem ha) hmem

/-- The orders of one state are the first ones of another. -/
def OrderSystem.Keeps (s s' : OrderSystem) : Prop :=
  s.db.orderKeys <+: s'.db.orderKeys ∧ s.db.payment.orders <+: s'.db.payment.orders

/-- Rows are never changed or removed. -/
theorem rows_kept {as : List CreateAction}
    (hrun : runSteps (OrderSystem.step keccak256 ryu hashtext) s as = some s') : s.Keeps s' := by
  refine rel_of_run (I := fun _ => True) (P := fun _ _ => True) (R := OrderSystem.Keeps)
    (fun _ => ⟨List.prefix_refl _, List.prefix_refl _⟩)
    (fun _ _ _ h h' => ⟨h.1.trans h'.1, h.2.trans h'.2⟩) (fun _ _ _ _ _ _ => trivial)
    (fun s a s' _ _ hst => ?_) trivial (stepsMeet_of_forall (fun _ _ => trivial) _ _) hrun
  unfold OrderSystem.Keeps
  rcases db_step hst with hsame | ⟨_, _, -, hdb⟩
  · rw [hsame]
    exact ⟨List.prefix_refl _, List.prefix_refl _⟩
  · rw [hdb]
    exact ⟨List.prefix_append _ _, List.prefix_append _ _⟩

/-- **Orders are created once**, whatever requests run at the same time, however
their steps interleave, and wherever they are lost; and the rows stay as they
are in every state that comes after. -/
theorem orders_created_once {as : List CreateAction} (hinit : s.Initial)
    (hrun : runSteps (OrderSystem.step keccak256 ryu hashtext) s as = some s') :
    s'.CreatedOnce keccak256 ryu hashtext
      ∧ ∀ bs s'', runSteps (OrderSystem.step keccak256 ryu hashtext) s' bs = some s''
        → s'.Keeps s'' :=
  ⟨(hinit.inv.run hrun).createdOnce, fun _ _ hrest => rows_kept hrest⟩

end Invariant

/-! ## Two small runs -/

namespace OneShop

/-- The service of a shop. -/
def config : OrderServiceConfig := ⟨1, 0x70, 604800⟩

/-- A request of the shop, with its time to live and amount. -/
def input (ttlSeconds : ℕ) (amount : RawAmount) : CreateOrderInput :=
  ⟨" order-1 ", amount, ttlSeconds, .null⟩

/-- The input in normal form. -/
def normalized (ttlSeconds : ℕ) (amount : RawAmount) : NormalizedCreateOrderInput :=
  ⟨"order-1", amount, ttlSeconds, .object []⟩

/-- No metadata of the runs has a double. -/
def ryu (_ : BitVec 64) : String := ""

/-- The hashes of the requests of the runs. -/
def keccak256 (bytes : List UInt8) : BitVec 256 :=
  let is ttlSeconds amount :=
    decide ((canonicalOrderRequest ryu (normalized ttlSeconds amount)).toUTF8.data.toList = bytes)
  if is 900 100 then 0xefea205ffd563ae144061cf4024e476417749fb535ed9ec249bc7097a50bc7ce
  else if is 900 200 then 0x0cdad16aa67fa0e0fbf96adba7ebf88426b32d8fa852b7d3d936b612fe363d16
  else if is 9223372036854775808 100 then
    0x2d4309febe82dd9ed4d05aaec87bd2efcc52e7687a9bdbff5a5568e3733beb51
  else 0

/-- The hash of the one key of the runs. -/
def hashtext (s : String) : BitVec 32 := if s = "merchant:order-1" then 0x60ac760a else 0

/-- No orders yet. -/
def start : OrderSystem where
  db := ⟨⟨[], [], [], [], []⟩, [], ⟨[], [], [], [], [], [], []⟩, List.map_nil.symm⟩
  cursor := some ⟨"pay3-master", 1, ⟨0, 0, 0, Nat.zero_le _, Nat.zero_le _, Nat.zero_le _⟩⟩
  locks := fun _ => none
  pending := []
  pcs := fun _ => .idle
  burned := []
  answers := []

theorem start_initial : start.Initial where
  unlocked := fun _ => rfl
  idle := fun _ => rfl
  pending := rfl
  burned := rfl
  answers := rfl
  unique := List.nodup_nil
  rows := ⟨nofun, nofun, nofun⟩
  segments := List.nodup_nil
  below := nofun

/-- A request is made, finds no order, and reads the head of the chain. -/
def begins (t : ℕ) (ttlSeconds : ℕ) (amount : RawAmount) : List CreateAction :=
  [.call t config "merchant" (input ttlSeconds amount), .lookup t, .head t (.ok ⟨7, 0x97⟩)]

/-- It takes a segment and has the address derived. -/
def derives (t : ℕ) : List CreateAction :=
  [.allocate t, .derive t (.ok (0xc0 + BitVec.ofNat 160 t)) 1000000
    ⟨0xa0 + BitVec.ofNat 128 t, 0xb0 + BitVec.ofNat 128 t, 0xe0 + BitVec.ofNat 128 t⟩]

/-- It stores the order. -/
def stores (t : ℕ) : List CreateAction :=
  [.lock t, .read t, .insert t, .insert t, .insert t, .commit t, .view t]

/-- A request whose time to live is no `i64` is overtaken by another under its
external id. -/
def overtaken : List CreateAction :=
  begins 1 9223372036854775808 100 ++ begins 0 900 100 ++ derives 0 ++ stores 0 ++ derives 1

/-- Three requests at once, two of them the same, and one that is lost with its
segment. -/
def together : List CreateAction :=
  begins 0 900 100 ++ begins 1 900 100 ++ begins 2 900 200 ++ begins 3 900 100
    ++ [.allocate 3, .crash 3] ++ derives 1 ++ derives 2 ++ derives 0
    ++ stores 1 ++ [.lock 0, .read 0, .view 0, .lock 2, .read 2]

/-- The step function of the runs. -/
abbrev step : OrderSystem → CreateAction → Option OrderSystem :=
  OrderSystem.step OneShop.keccak256 ryu hashtext

end OneShop

open OneShop in
/-- A request that differs from the order under its external id is not always
told so: its time to live is looked at after it has found no order, and nothing
else has failed. -/
theorem other_hash_without_conflict :
    start.Initial ∧ ∃ s, runSteps OneShop.step start overtaken = some s
      ∧ ∃ a ∈ s.answers, ∃ k ∈ s.db.orderKeys, k.IsFor a.1
        ∧ k.requestHash ≠ a.1.hash OneShop.keccak256 OneShop.ryu
        ∧ a.2 ≠ conflictAnswer a.1 k.orderId
        ∧ a.2 = .error (.integerOutOfRange "ttl_seconds") := by
  have hcheck : (runSteps OneShop.step start overtaken).map (fun s => s.answers.any (fun a =>
      s.db.orderKeys.any (fun k => decide (k.IsFor a.1
        ∧ k.requestHash ≠ a.1.hash OneShop.keccak256 OneShop.ryu
        ∧ a.2 ≠ conflictAnswer a.1 k.orderId
        ∧ a.2 = .error (.integerOutOfRange "ttl_seconds"))))) = some true := by
    decide +kernel
  obtain ⟨s, hrun, hany⟩ := Option.map_eq_some_iff.mp hcheck
  obtain ⟨a, ha, hany⟩ := List.any_eq_true.mp hany
  obtain ⟨k, hk, hfacts⟩ := List.any_eq_true.mp hany
  exact ⟨start_initial, s, hrun, a, ha, k, hk, of_decide_eq_true hfacts⟩

open OneShop in
/-- Three requests at once: one order, the answers of two requests from it and a
conflict for the third, and three segments used up. -/
theorem orders_created_once_together :
    ∃ s, runSteps OneShop.step start together = some s
      ∧ s.db.orderKeys.map OrderKeyRecord.orderId = [0xa1]
      ∧ s.answers.map (fun a => a.2.toOption.map (fun r => r.2.1.id))
        = [some 0xa1, some 0xa1, none]
      ∧ s.burned.length = 3
      ∧ s.CreatedOnce OneShop.keccak256 OneShop.ryu OneShop.hashtext := by
  have hfacts : (runSteps OneShop.step start together).map (fun s =>
      (s.db.orderKeys.map OrderKeyRecord.orderId,
        s.answers.map (fun a => a.2.toOption.map (fun r => r.2.1.id)), s.burned.length))
      = some ([0xa1], [some 0xa1, some 0xa1, none], 3) := by
    decide +kernel
  obtain ⟨s, hrun, heq⟩ := Option.map_eq_some_iff.mp hfacts
  obtain ⟨hkeys, heq⟩ := Prod.mk.inj heq
  obtain ⟨hanswers, hburned⟩ := Prod.mk.inj heq
  exact ⟨s, hrun, hkeys, hanswers, hburned, (orders_created_once start_initial hrun).1⟩
