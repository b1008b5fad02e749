import Mathlib.Data.List.Dedup
import Mathlib.Data.List.Perm.Subperm
import Pay3.StoredTransactions

/-!
# Nonce holes

A nonce is reserved in one transaction and stored in another, and the counter
never moves back. What a worker holds in between is lost if anything fails
there: building or signing the transaction, the checks on the signed result,
the insert, or the worker itself. The next job then takes the next nonce, and
the account is left with a nonce no stored transaction carries.

`noHoles_of_run` proves that this is the only way a hole comes about. The
invariant says that the nonces of an account that are stored or held by a
worker are exactly those from the first one reserved up to the counter.
-/

/-- An account: a chain and an address on it. -/
abbrev Account := ℕ × EvmAddress

namespace CollectorDb

/-- A transaction of the account `k` with nonce `n` is stored. -/
def StoredNonce (db : CollectorDb) (k : Account) (n : ℕ) : Prop :=
  ∃ o ∈ db.outboundTransactions, (o.chainId, o.fromAddress) = k ∧ o.nonce.toNat = n

/-- It is a fact about the columns no update changes. -/
theorem storedNonce_iff_core {db : CollectorDb} {k : Account} {n : ℕ} :
    db.StoredNonce k n ↔ ∃ c ∈ db.outboundTransactions.map OutboundTxRecord.core,
      (c.chainId, c.fromAddress) = k ∧ c.nonce.toNat = n := by
  constructor
  · rintro ⟨o, ho, hk, hn⟩
    exact ⟨o.core, List.mem_map_of_mem ho, hk, hn⟩
  · rintro ⟨c, hc, hk, hn⟩
    obtain ⟨o, ho, rfl⟩ := List.mem_map.mp hc
    exact ⟨o, ho, hk, hn⟩

variable {db db' : CollectorDb} {k : Account} {n : ℕ}

theorem storedNonce_congr (h : db'.outboundTransactions.map OutboundTxRecord.core
    = db.outboundTransactions.map OutboundTxRecord.core) :
    db'.StoredNonce k n ↔ db.StoredNonce k n := by
  rw [storedNonce_iff_core, storedNonce_iff_core, h]

theorem storedNonce_append (row : OutboundTxRecord)
    (h : db'.outboundTransactions.map OutboundTxRecord.core
      = db.outboundTransactions.map OutboundTxRecord.core ++ [row.core]) :
    db'.StoredNonce k n
      ↔ db.StoredNonce k n ∨ ((row.chainId, row.fromAddress) = k ∧ row.nonce.toNat = n) := by
  rw [storedNonce_iff_core, storedNonce_iff_core, h]
  constructor
  · rintro ⟨c, hc, hkn⟩
    rcases List.mem_append.mp hc with hc | hc
    · exact Or.inl ⟨c, hc, hkn⟩
    · rw [List.mem_singleton.mp hc] at hkn
      exact Or.inr hkn
  · rintro (⟨c, hc, hkn⟩ | hkn)
    · exact ⟨c, List.mem_append_left _ hc, hkn⟩
    · exact ⟨row.core, List.mem_append_right _ (List.mem_singleton_self _), hkn⟩

/-- The three marks store no nonce. -/
theorem storedNonce_mark {txId : Uuid} {able : String}
    {setOutbound : OutboundTxRecord → OutboundTxRecord} {starts : CollectionRecordStatus → Bool}
    {setCollection : CollectionRecord → CollectionRecord} {row : OutboundTxRecord}
    (hx : db.markOutbound txId able setOutbound starts setCollection = .ok (db', row))
    (hg : ∀ o, (setOutbound o).core = o.core) :
    db'.StoredNonce k n ↔ db.StoredNonce k n := by
  obtain ⟨-, -, rfl⟩ := markOutbound_eq_ok hx
  exact storedNonce_congr (map_updateWhere hg _)

/-- An insert stores the nonce of its transaction. -/
theorem storedNonce_insert {now : Timestamp} {i : Uuid} {tx : NewSignedOutboundTx}
    {amount : RawAmount} {row : OutboundTxRecord}
    (hx : db.insertSignedCollectTx now i tx amount = .ok (db', row)) :
    db'.StoredNonce k n
      ↔ db.StoredNonce k n ∨ ((tx.chainId, tx.fromAddress) = k ∧ tx.nonce.toNat = n) := by
  obtain ⟨-, rfl, -, rfl⟩ := insertSignedCollectTx_eq_ok hx
  exact storedNonce_append (newOutboundRow now tx none) List.map_append

/-- A replacement stores a nonce that was stored before. -/
theorem storedNonce_replace {now : Timestamp} {oldTxId : Uuid} {replacement : NewSignedOutboundTx}
    {row : OutboundTxRecord} (hx : db.replaceSignedTx now oldTxId replacement = .ok (db', row)) :
    db'.StoredNonce k n ↔ db.StoredNonce k n := by
  obtain ⟨⟨old, hold, -, hchain, hfrom, hnonce⟩, -, rfl, rfl⟩ := replaceSignedTx_eq_ok hx
  have hcore : (updateWhere (fun o => decide (o.id = oldTxId))
        (markReplaced now replacement.replacementReason) db.outboundTransactions
      ++ [newOutboundRow now replacement (some oldTxId)]).map OutboundTxRecord.core
      = db.outboundTransactions.map OutboundTxRecord.core
        ++ [(newOutboundRow now replacement (some oldTxId)).core] := by
    rw [List.map_append, map_updateWhere (f := markReplaced now replacement.replacementReason)
      (k := OutboundTxRecord.core) (fun _ => rfl)]
    rfl
  refine (storedNonce_append _ hcore).trans
    (or_iff_left_of_imp (fun hkn => ⟨old, (mem_of_find?_key hold).1, ?_⟩))
  rw [hchain, hfrom, hnonce]
  exact hkn

end CollectorDb

/-- A worker at `pc` holds the nonce `n` of the account `k`. -/
def CollectorPc.HoldsNonce (pc : CollectorPc) (k : Account) (n : ℕ) : Prop :=
  ∃ h, pc.holding? = some h ∧ (h.chainId, h.address) = k ∧ h.nonce.toNat = n

/-- A worker that holds nothing holds no nonce. -/
theorem CollectorPc.not_holdsNonce {pc : CollectorPc} (h : pc.holding? = none) {k : Account}
    {n : ℕ} : ¬ pc.HoldsNonce k n := by
  rintro ⟨r, hr, -⟩
  rw [h] at hr
  cases hr

namespace CollectorState

/-- The first nonce ever reserved for an account. -/
def firstReserved (s : CollectorState) (k : Account) : Option ℕ :=
  (s.history.reservations.find? (fun r => decide (r.1 = k))).map Prod.snd

/-- The distinct nonces of the transactions of an account handed to the node. -/
def sentNonces (s : CollectorState) (k : Account) : List ℕ :=
  ((s.history.sent.filter (fun o => decide ((o.chainId, o.fromAddress) = k))).map
    (fun o => o.nonce.toNat)).dedup

/-- **No nonce holes.** For every account none of whose nonces is held by a
worker, the nonces of its stored transactions are an interval that starts at
the first nonce reserved. -/
def NoHoles (s : CollectorState) : Prop :=
  ∀ k, (∀ w n, ¬ (s.pc w).HoldsNonce k n) →
    match s.firstReserved k with
    | none => ∀ n, ¬ s.db.StoredNonce k n
    | some first => ∃ stop, ∀ n, s.db.StoredNonce k n ↔ first ≤ n ∧ n < stop

/-- A worker that holds a reserved nonce crashes or one of its calls fails, its
signed transaction does not pass the checks, or its insert is refused. -/
def failsHolding (s : CollectorState) : CollectorAction → Bool
  | .worker w a =>
    match s.pc w, a with
    | .reserved .., .abort | .signed .., .abort => true
    | .reserved job payer _ fees nonce, .sign signed id =>
      !(checkedCollectTx job payer fees nonce signed id).isOk
    | .signed job amount tx, .store =>
      !(s.db.insertSignedCollectTx s.now job.collection.id tx amount).isOk
    | _, _ => false
  | _ => false

/-- The node's pending nonce exceeds the number of transactions sent: those
before the first reservation, and one for each nonce sent since. -/
def pendingAhead (s : CollectorState) : CollectorAction → Bool
  | .worker w (.reserve pendingNonce) =>
    match s.pc w with
    | .quoted job payer _ _ =>
      match s.firstReserved (job.collection.chainId, payer) with
      | none => false
      | some first => decide
          (first + (s.sentNonces (job.collection.chainId, payer)).length < pendingNonce.toNat)
    | _ => false
  | _ => false

/-- A nonce is stored, or held by a worker. -/
def Taken (s : CollectorState) (k : Account) (n : ℕ) : Prop :=
  s.db.StoredNonce k n ∨ ∃ w, (s.pc w).HoldsNonce k n

/-- **The invariant of the counters.** The counter of an account is never below
the first nonce reserved; the nonces taken are those from there up to the
counter, as far as an amount can hold them. -/
structure NonceInv (s : CollectorState) : Prop where
  unreserved : ∀ k, s.firstReserved k = none →
    s.db.nextNonce? k.1 k.2 = none ∧ ∀ n, ¬ s.Taken k n
  reserved : ∀ k first, s.firstReserved k = some first →
    ∃ next, s.db.nextNonce? k.1 k.2 = some next ∧ first ≤ next
      ∧ ∀ n, s.Taken k n ↔ first ≤ n ∧ n < min next (2 ^ 256)
  sent : ∀ o ∈ s.history.sent, s.db.StoredNonce (o.chainId, o.fromAddress) o.nonce.toNat
  broadcasting : ∀ w i tx, s.pc w = .broadcasting i tx →
    s.db.StoredNonce (tx.chainId, tx.fromAddress) tx.nonce.toNat

/-- The invariant leaves no holes. -/
theorem NonceInv.noHoles {s : CollectorState} (h : NonceInv s) : NoHoles s := by
  intro k hfree
  have htaken : ∀ n, s.Taken k n ↔ s.db.StoredNonce k n :=
    fun n => or_iff_left (fun ⟨w, hw⟩ => hfree w n hw)
  cases hfirst : s.firstReserved k with
  | none => exact fun n hn => (h.unreserved k hfirst).2 n ((htaken n).mpr hn)
  | some first =>
    obtain ⟨next, -, -, hn⟩ := h.reserved k first hfirst
    exact ⟨min next (2 ^ 256), fun n => (htaken n).symm.trans (hn n)⟩

/-! ## Steps that reserve nothing -/

/-- A step that neither reserves nor loses a nonce keeps the invariant. -/
theorem NonceInv.of_taken {s t : CollectorState} (h : NonceInv s)
    (hres : t.history.reservations = s.history.reservations)
    (hnonces : t.db.accountNonces = s.db.accountNonces)
    (htaken : ∀ k n, t.Taken k n ↔ s.Taken k n)
    (hsent : ∀ o ∈ t.history.sent, t.db.StoredNonce (o.chainId, o.fromAddress) o.nonce.toNat)
    (hb : ∀ w i tx, t.pc w = .broadcasting i tx →
      t.db.StoredNonce (tx.chainId, tx.fromAddress) tx.nonce.toNat) : NonceInv t := by
  have hfirst : ∀ k, t.firstReserved k = s.firstReserved k := by
    intro k
    unfold firstReserved
    rw [hres]
  have hnext : ∀ k : Account, t.db.nextNonce? k.1 k.2 = s.db.nextNonce? k.1 k.2 := by
    intro k
    unfold CollectorDb.nextNonce?
    rw [hnonces]
  refine ⟨fun k hk => ?_, fun k first hk => ?_, hsent, hb⟩
  · rw [hfirst] at hk
    rw [hnext]
    obtain ⟨hn, hnone⟩ := h.unreserved k hk
    exact ⟨hn, fun n ht => hnone n ((htaken k n).mp ht)⟩
  · rw [hfirst] at hk
    rw [hnext]
    obtain ⟨next, hn, hle, hrange⟩ := h.reserved k first hk
    exact ⟨next, hn, hle, fun n => (htaken k n).trans (hrange n)⟩

variable {cfg : CollectorConfig} {s : CollectorState} {w : ℕ} {a : WorkerAction}
  {r : WorkerResult}

/-- What a worker stops holding is stored: `X` says what goes from one to the
other. -/
theorem taken_moved {X : Account → ℕ → Prop}
    (hst : ∀ k n, r.db.StoredNonce k n ↔ s.db.StoredNonce k n ∨ X k n)
    (hh : ∀ k n, (s.pc w).HoldsNonce k n ↔ r.pc.HoldsNonce k n ∨ X k n) (k : Account) (n : ℕ) :
    (s.moved w a r).Taken k n ↔ s.Taken k n := by
  constructor
  · rintro (hk | ⟨v, hv⟩)
    · rcases (hst k n).mp hk with hk | hX
      · exact Or.inl hk
      · exact Or.inr ⟨w, (hh k n).mpr (Or.inr hX)⟩
    · by_cases hvw : v = w
      · rw [hvw] at hv
        refine Or.inr ⟨w, (hh k n).mpr (Or.inl ?_)⟩
        simpa [moved] using hv
      · exact Or.inr ⟨v, by simpa [moved, hvw] using hv⟩
  · rintro (hk | ⟨v, hv⟩)
    · exact Or.inl ((hst k n).mpr (Or.inl hk))
    · by_cases hvw : v = w
      · rw [hvw] at hv
        rcases (hh k n).mp hv with hr | hX
        · exact Or.inr ⟨w, by simpa [moved] using hr⟩
        · exact Or.inl ((hst k n).mpr (Or.inr hX))
      · exact Or.inr ⟨v, by simpa [moved, hvw] using hv⟩

/-- A move that reserves nothing and stores what it stops holding keeps the
invariant. -/
theorem NonceInv.move {X : Account → ℕ → Prop} (h : NonceInv s)
    (hres : r.history.reservations = s.history.reservations)
    (hnonces : r.db.accountNonces = s.db.accountNonces)
    (hst : ∀ k n, r.db.StoredNonce k n ↔ s.db.StoredNonce k n ∨ X k n)
    (hh : ∀ k n, (s.pc w).HoldsNonce k n ↔ r.pc.HoldsNonce k n ∨ X k n)
    (hsent : ∀ o ∈ r.history.sent, o ∈ s.history.sent
      ∨ s.db.StoredNonce (o.chainId, o.fromAddress) o.nonce.toNat)
    (hb : ∀ i tx, r.pc = .broadcasting i tx →
      r.db.StoredNonce (tx.chainId, tx.fromAddress) tx.nonce.toNat) :
    NonceInv (s.moved w a r) := by
  refine h.of_taken hres hnonces (taken_moved hst hh) (fun o ho => ?_) (fun v i tx hv => ?_)
  · refine (hst _ _).mpr (Or.inl ?_)
    rcases hsent o ho with ho | ho
    · exact h.sent o ho
    · exact ho
  · by_cases hvw : v = w
    · refine hb i tx ?_
      simpa [moved, hvw] using hv
    · exact (hst _ _).mpr (Or.inl (h.broadcasting v i tx (by simpa [moved, hvw] using hv)))

/-! ## Reserving -/

/-- A reservation adds what the worker holds after it. -/
theorem taken_reserve (hpc : (s.pc w).holding? = none)
    (hst : ∀ k n, r.db.StoredNonce k n ↔ s.db.StoredNonce k n) (k : Account) (n : ℕ) :
    (s.moved w a r).Taken k n ↔ s.Taken k n ∨ r.pc.HoldsNonce k n := by
  constructor
  · rintro (hk | ⟨v, hv⟩)
    · exact Or.inl (Or.inl ((hst k n).mp hk))
    · by_cases hvw : v = w
      · exact Or.inr (by simpa [moved, hvw] using hv)
      · exact Or.inl (Or.inr ⟨v, by simpa [moved, hvw] using hv⟩)
  · rintro ((hk | ⟨v, hv⟩) | hr)
    · exact Or.inl ((hst k n).mpr hk)
    · have hvw : v ≠ w := by
        intro hvw
        rw [hvw] at hv
        exact CollectorPc.not_holdsNonce hpc hv
      exact Or.inr ⟨v, by simpa [moved, hvw] using hv⟩
    · exact Or.inr ⟨w, by simpa [moved] using hr⟩

/-- As many nonces were sent as lie between the first one and the counter, at
most. -/
theorem NonceInv.sentNonces_le (h : NonceInv s) {k : Account} {first next : ℕ}
    (hle : first ≤ next) (hrange : ∀ n, s.Taken k n ↔ first ≤ n ∧ n < min next (2 ^ 256)) :
    first + (s.sentNonces k).length ≤ next := by
  have hsub : s.sentNonces k ⊆ List.range' first (next - first) := by
    intro n hn
    obtain ⟨o, ho, rfl⟩ := List.mem_map.mp (List.mem_dedup.mp hn)
    obtain ⟨hsent, hk⟩ := List.mem_filter.mp ho
    have hstored := h.sent o hsent
    rw [of_decide_eq_true hk] at hstored
    obtain ⟨hlo, hhi⟩ := (hrange _).mp (Or.inl hstored)
    have hlt := lt_of_lt_of_le hhi (Nat.min_le_left _ _)
    exact List.mem_range'_1.mpr ⟨hlo, by omega⟩
  have hlen : (s.sentNonces k).length ≤ (List.range' first (next - first)).length :=
    (List.subperm_of_subset (List.nodup_dedup _) hsub).length_le
  rw [List.length_range'] at hlen
  omega

/-- The history lists the first reservation of every account for good. -/
theorem firstReserved_append {t : CollectorState} {k k' : Account} {n : ℕ}
    (h : t.history.reservations = s.history.reservations ++ [(k', n)]) :
    t.firstReserved k = (s.firstReserved k).or (if k' = k then some n else none) := by
  unfold firstReserved
  rw [h, List.find?_append]
  cases s.history.reservations.find? (fun r => decide (r.1 = k)) with
  | some p => rfl
  | none =>
    by_cases hk : k' = k
    · simp [hk]
    · simp [hk]

/-- **The reserved nonce is the counter**, once the account has one and the
node's answer is not ahead of what was sent. -/
theorem NonceInv.reservable_eq (h : NonceInv s) {k : Account} {first next : ℕ}
    {pendingNonce : RawAmount} (hnext : s.db.nextNonce? k.1 k.2 = some next) (hle : first ≤ next)
    (hrange : ∀ n, s.Taken k n ↔ first ≤ n ∧ n < min next (2 ^ 256))
    (hpending : pendingNonce.toNat ≤ first + (s.sentNonces k).length) :
    s.db.reservableNonce k.1 k.2 pendingNonce = next := by
  have hsent := h.sentNonces_le hle hrange
  unfold CollectorDb.reservableNonce
  rw [hnext]
  exact Nat.max_eq_left (by omega)

/-- What the reserving worker holds afterwards: the reserved nonce, if it fits
an amount. -/
theorem holdsNonce_reserved {pc' : CollectorPc} {job : CollectionJob} {payer : EvmAddress}
    {amount : RawAmount} {fees : CollectionFees} {value : ℕ}
    (hpc' : (∃ n : RawAmount, pc' = .reserved job payer amount fees n ∧ n.toNat = value)
      ∨ (pc' = .idle ∧ 2 ^ 256 ≤ value)) (k : Account) (n : ℕ) :
    pc'.HoldsNonce k n ↔ (job.collection.chainId, payer) = k ∧ n = value ∧ value < 2 ^ 256 := by
  rcases hpc' with ⟨m, rfl, hm⟩ | ⟨rfl, hbig⟩
  · constructor
    · rintro ⟨hh, hhold, hk, hn⟩
      obtain rfl := Option.some.inj hhold
      exact ⟨hk, by rw [← hn, ← hm], by rw [← hm]; exact m.isLt⟩
    · rintro ⟨hk, hn, -⟩
      exact ⟨⟨job.collection.chainId, payer, m⟩, rfl, hk, by rw [hn, ← hm]⟩
  · constructor
    · exact fun hh => absurd hh (CollectorPc.not_holdsNonce rfl)
    · rintro ⟨-, -, hlt⟩
      omega

/-- **A reservation keeps the invariant.** -/
theorem NonceInv.reserve (h : NonceInv s) {pc' : CollectorPc} {job : CollectionJob}
    {payer : EvmAddress} {amount : RawAmount} {fees : CollectionFees} {pendingNonce : RawAmount}
    (hpc : s.pc w = .quoted job payer amount fees)
    (hpc' : (∃ n : RawAmount, pc' = .reserved job payer amount fees n ∧ n.toNat
        = s.db.reservableNonce job.collection.chainId payer pendingNonce)
      ∨ (pc' = .idle ∧ 2 ^ 256 ≤ s.db.reservableNonce job.collection.chainId payer pendingNonce))
    (hahead : pendingAhead s (.worker w (.reserve pendingNonce)) = false) :
    NonceInv (s.moved w a ⟨s.db.setNonce job.collection.chainId payer
        (s.db.reservableNonce job.collection.chainId payer pendingNonce + 1),
      s.recordReservation job.collection.chainId payer pendingNonce, pc'⟩) := by
  generalize hvalue : s.db.reservableNonce job.collection.chainId payer pendingNonce = value
    at hpc' ⊢
  set r : WorkerResult := ⟨s.db.setNonce job.collection.chainId payer (value + 1),
    s.recordReservation job.collection.chainId payer pendingNonce, pc'⟩ with hr
  have htaken := taken_reserve (a := a) (r := r) (s := s) (w := w) (by rw [hpc]; rfl)
    (fun k n => Iff.rfl)
  have hholds := holdsNonce_reserved hpc'
  have hfirst : ∀ k, (s.moved w a r).firstReserved k
      = (s.firstReserved k).or (if (job.collection.chainId, payer) = k then some value else none) :=
    fun k => firstReserved_append (by rw [← hvalue]; rfl)
  have hother : ∀ k : Account, (job.collection.chainId, payer) ≠ k →
      (s.moved w a r).db.nextNonce? k.1 k.2 = s.db.nextNonce? k.1 k.2 :=
    fun k hk => CollectorDb.nextNonce?_setNonce_of_ne s.db (value + 1) hk
  have hsame : (s.moved w a r).db.nextNonce? job.collection.chainId payer = some (value + 1) :=
    CollectorDb.nextNonce?_setNonce_self s.db _ _ _
  refine ⟨fun k hk => ?_, fun k first hk => ?_, fun o ho => h.sent o ho, fun v i tx hv => ?_⟩
  · -- an account without a reservation is another one
    rw [hfirst] at hk
    have hne : (job.collection.chainId, payer) ≠ k := by
      intro heq
      rw [if_pos heq] at hk
      cases hs : s.firstReserved k <;> rw [hs] at hk <;> cases hk
    rw [if_neg hne, Option.or_none] at hk
    obtain ⟨hn, hnone⟩ := h.unreserved k hk
    refine ⟨(hother k hne).trans hn, fun n hn => ?_⟩
    rcases (htaken k n).mp hn with hn | hn
    · exact hnone n hn
    · exact hne ((hholds k n).mp hn).1
  · rw [hfirst] at hk
    by_cases heq : (job.collection.chainId, payer) = k
    · subst heq
      cases hs : s.firstReserved (job.collection.chainId, payer) with
      | none =>
        -- the first reservation of the account takes the pending nonce
        rw [hs, if_pos rfl] at hk
        obtain rfl : value = first := Option.some.inj hk
        obtain ⟨hn, hnone⟩ := h.unreserved _ hs
        have hlt : value < 2 ^ 256 := by
          rw [← hvalue]
          unfold CollectorDb.reservableNonce
          rw [hn]
          exact pendingNonce.isLt
        refine ⟨value + 1, hsame, Nat.le_succ _, fun n => ?_⟩
        rw [htaken, hholds]
        constructor
        · rintro (hn | ⟨-, rfl, -⟩)
          · exact absurd hn (hnone n)
          · exact ⟨Nat.le_refl _, lt_min (Nat.lt_succ_self _) hlt⟩
        · rintro ⟨hlo, hhi⟩
          have := lt_of_lt_of_le hhi (Nat.min_le_left _ _)
          exact Or.inr ⟨rfl, by omega, hlt⟩
      | some first' =>
        rw [hs] at hk
        obtain rfl : first' = first := Option.some.inj hk
        obtain ⟨next, hnext, hle, hrange⟩ := h.reserved _ _ hs
        have hpending : pendingNonce.toNat
            ≤ first' + (s.sentNonces (job.collection.chainId, payer)).length := by
          unfold pendingAhead at hahead
          simp only [hpc, hs, decide_eq_false_iff_not, Nat.not_lt] at hahead
          exact hahead
        obtain rfl : value = next := by
          rw [← hvalue]
          exact h.reservable_eq hnext hle hrange hpending
        refine ⟨value + 1, hsame, by omega, fun n => ?_⟩
        rw [htaken, hholds, hrange, Nat.lt_min, Nat.lt_min]
        constructor
        · rintro (⟨hlo, hhi, hbig⟩ | ⟨-, rfl, hbig⟩)
          · exact ⟨hlo, by omega, hbig⟩
          · exact ⟨hle, Nat.lt_succ_self _, hbig⟩
        · rintro ⟨hlo, hhi, hbig⟩
          rcases Nat.lt_or_ge n value with hlt | hge
          · exact Or.inl ⟨hlo, hlt, hbig⟩
          · have hn : n = value := by omega
            exact Or.inr ⟨rfl, hn, hn ▸ hbig⟩
    · rw [if_neg heq, Option.or_none] at hk
      obtain ⟨next, hnext, hle, hrange⟩ := h.reserved k first hk
      refine ⟨next, (hother k heq).trans hnext, hle, fun n => (htaken k n).trans ?_⟩
      rw [hrange]
      exact or_iff_left (fun hn => heq ((hholds k n).mp hn).1)
  · by_cases hvw : v = w
    · have hpc'' : pc' = .broadcasting i tx := by simpa [moved, hvw, hr] using hv
      rcases hpc' with ⟨m, rfl, -⟩ | ⟨rfl, -⟩
      · cases hpc''
      · cases hpc''
    · exact h.broadcasting v i tx (by simpa [moved, hvw] using hv)

/-! ## Runs -/

/-- A worker that holds a nonce goes back to idle only by failing. -/
theorem failsHolding_of_idle (hh : (s.pc w).holding? ≠ none)
    (hr : workerStep cfg s w (s.pc w) a = some r) (hidle : r.pc = .idle) :
    failsHolding s (.worker w a) = true := by
  cases hpc : s.pc w with
  | reserved job payer amount fees nonce =>
    rw [hpc] at hr
    cases a with
    | abort => simp only [failsHolding, hpc]
    | sign signed id =>
      simp only [workerStep, proceed, stay] at hr
      cases hx : checkedCollectTx job payer fees nonce signed id with
      | error e => simp [failsHolding, hpc, hx, Except.isOk, Except.toBool]
      | ok tx =>
        rw [hx] at hr
        rw [← Option.some.inj hr] at hidle
        cases hidle
    | _ => cases hr
  | signed job amount tx =>
    rw [hpc] at hr
    cases a with
    | abort => simp only [failsHolding, hpc]
    | store =>
      simp only [workerStep, commit, stay] at hr
      cases hx : s.db.insertSignedCollectTx s.now job.collection.id tx amount with
      | error e => simp [failsHolding, hpc, hx, Except.isOk, Except.toBool]
      | ok p =>
        rw [hx] at hr
        rw [← Option.some.inj hr] at hidle
        cases hidle
    | _ => cases hr
  | _ => rw [hpc] at hh; exact absurd rfl hh

/-- **One step keeps the invariant**, unless a worker that holds a nonce fails
or the node's pending nonce is ahead. -/
theorem nonceInv_step {cfg : ℕ → CollectorConfig} {t : CollectorState} {b : CollectorAction}
    (h : NonceInv s) (hfails : failsHolding s b = false) (hahead : pendingAhead s b = false)
    (hstep : step cfg s b = some t) : NonceInv t := by
  obtain ⟨command, -, -, rfl⟩ | hsur | ⟨w, a, r, rfl, hr, hm, rfl⟩ := step_cases hstep
  · exact h.of_taken rfl rfl (fun _ _ => Iff.rfl) h.sent h.broadcasting
  · obtain ⟨orders, hdb⟩ := hsur.db
    have hstored : ∀ k n, t.db.StoredNonce k n ↔ s.db.StoredNonce k n :=
      fun k n => by rw [hdb]; exact Iff.rfl
    refine h.of_taken (by rw [hsur.history]) (by rw [hdb]) (fun k n => ?_) (fun o ho => ?_)
      (fun v i tx hv => ?_)
    · unfold Taken
      rw [hstored, hsur.pc]
    · rw [hsur.history] at ho
      exact (hstored _ _).mpr (h.sent o ho)
    · rw [hsur.pc] at hv
      exact (hstored _ _).mpr (h.broadcasting v i tx hv)
  · -- the moves that neither store nor hold anything new
    have hkeep : ∀ {r : WorkerResult}, r.history.reservations = s.history.reservations →
        r.db.accountNonces = s.db.accountNonces →
        (∀ k n, r.db.StoredNonce k n ↔ s.db.StoredNonce k n) →
        (∀ k n, (s.pc w).HoldsNonce k n ↔ r.pc.HoldsNonce k n) →
        (∀ o ∈ r.history.sent, o ∈ s.history.sent
          ∨ s.db.StoredNonce (o.chainId, o.fromAddress) o.nonce.toNat) →
        (∀ i tx, r.pc = .broadcasting i tx →
          r.db.StoredNonce (tx.chainId, tx.fromAddress) tx.nonce.toNat) →
        NonceInv (s.moved w a r) := by
      intro r hres hnonces hst hh hsent hb
      exact h.move (X := fun _ _ => False) hres hnonces
        (fun k n => (hst k n).trans (or_iff_left id).symm)
        (fun k n => (hh k n).trans (or_iff_left id).symm) hsent hb
    have hnone : ∀ {pc' : CollectorPc}, (s.pc w).holding? = none → pc'.holding? = none →
        ∀ k n, (s.pc w).HoldsNonce k n ↔ pc'.HoldsNonce k n :=
      fun h₁ h₂ k n => iff_of_false (CollectorPc.not_holdsNonce h₁) (CollectorPc.not_holdsNonce h₂)
    cases hm with
    | quiet hc hh hidle hb =>
      refine hkeep rfl rfl (fun _ _ => Iff.rfl) (fun k n => ?_) (fun o ho => Or.inl ho)
        (fun i tx hi => absurd hi (hb i tx))
      rcases hh with hh | hh
      · by_cases hold : (s.pc w).holding? = none
        · exact hnone hold hh k n
        · rw [failsHolding_of_idle hold hr (hidle hh hold)] at hfails
          cases hfails
      · unfold CollectorPc.HoldsNonce
        rw [hh]
    | sent hpc hpc' =>
      refine hkeep rfl rfl (fun _ _ => Iff.rfl) (hnone (by rw [hpc]; rfl) ?_) (fun o ho => ?_)
        (fun i tx hi => ?_)
      · rcases hpc' with rfl | rfl <;> rfl
      · rcases List.mem_append.mp ho with ho | ho
        · exact Or.inl ho
        · rw [List.mem_singleton.mp ho]
          exact Or.inr (h.broadcasting w _ _ hpc)
      · rcases hpc' with rfl | rfl <;> cases hi
    | leased hmem hf hc hb hpc hh =>
      refine hkeep rfl rfl (fun _ _ => Iff.rfl) (hnone hpc hh) (fun o ho => Or.inl ho)
        (fun i tx hi => ?_)
      obtain ⟨j, -, hj⟩ := Option.bind_eq_some_iff.mp (hb i tx hi)
      exact ⟨tx, (mem_of_find?_key hj).1, rfl, rfl⟩
    | reserved ha hpc hpc' =>
      subst ha
      exact h.reserve hpc hpc' hahead
    | stored ha hpc hx =>
      rename_i job amount tx db row
      have hrow : row = CollectorDb.newOutboundRow s.now tx none :=
        (CollectorDb.insertSignedCollectTx_eq_ok hx).2.1
      refine h.move (X := fun k n => (tx.chainId, tx.fromAddress) = k ∧ tx.nonce.toNat = n) rfl
        (by rw [(CollectorDb.insertSignedCollectTx_eq_ok hx).2.2.2])
        (fun k n => CollectorDb.storedNonce_insert hx) (fun k n => ?_) (fun o ho => Or.inl ho)
        (fun i tx' hi => ?_)
      · rw [hpc, or_iff_right (CollectorPc.not_holdsNonce rfl)]
        constructor
        · rintro ⟨hh, hhold, hk, hn⟩
          obtain rfl := Option.some.inj hhold
          exact ⟨hk, hn⟩
        · rintro ⟨hk, hn⟩
          exact ⟨⟨tx.chainId, tx.fromAddress, tx.nonce⟩, rfl, hk, hn⟩
      · obtain ⟨-, rfl⟩ := CollectorPc.broadcasting.inj hi
        rw [hrow]
        exact (CollectorDb.storedNonce_insert hx).mpr (Or.inr ⟨rfl, rfl⟩)
    | replaced ha hpc hx =>
      have hdb := (CollectorDb.replaceSignedTx_eq_ok hx).2.2.2
      refine hkeep rfl (by rw [hdb]) (fun k n => CollectorDb.storedNonce_replace hx)
        (hnone (by rw [hpc]; rfl) rfl) (fun o ho => Or.inl ho) (fun i tx hi => ?_)
      obtain ⟨-, rfl⟩ := CollectorPc.broadcasting.inj hi
      exact ⟨_, by rw [hdb]; exact List.mem_append_right _ (List.mem_singleton_self _), rfl, rfl⟩
    | markedBroadcast hpc hx =>
      refine hkeep rfl ?_ (fun k n => CollectorDb.storedNonce_mark hx (fun _ => rfl))
        (hnone (by rw [hpc]; rfl) rfl) (fun o ho => Or.inl ho) (fun i tx hi => by cases hi)
      rw [(CollectorDb.markOutbound_eq_ok hx).2.2]
    | confirmed hpc hx =>
      have hx := (CollectorDb.markConfirmed_eq_ok.mp hx).2
      refine hkeep rfl ?_ (fun k n => CollectorDb.storedNonce_mark hx (fun _ => rfl))
        (hnone (by rw [hpc]; rfl) rfl) (fun o ho => Or.inl ho) (fun i tx hi => by cases hi)
      rw [(CollectorDb.markOutbound_eq_ok hx).2.2]
    | failed hpc hx =>
      refine hkeep rfl ?_ (fun k n => CollectorDb.storedNonce_mark hx (fun _ => rfl))
        (hnone (by rw [hpc]; rfl) rfl) (fun o ho => Or.inl ho) (fun i tx hi => by cases hi)
      rw [(CollectorDb.markOutbound_eq_ok hx).2.2]

/-- **No nonce holes.** In every run of any number of jobs and workers in which
nothing fails between a reservation and its insert, and in which the node's
pending nonce never exceeds the number of transactions sent, the nonces stored
for an account are an interval from the first one reserved, whenever no job of
the account is between its reservation and its insert. -/
theorem noHoles_of_run {cfg : ℕ → CollectorConfig} {s t : CollectorState}
    {as : List CollectorAction} (hinit : Initial s)
    (hpending : StepsMeet (step cfg) (fun s a => pendingAhead s a = false) s as)
    (hfails : StepsMeet (step cfg) (fun s a => failsHolding s a = false) s as)
    (hr : runSteps (step cfg) s as = some t) : NoHoles t := by
  have hfirst : ∀ k, s.firstReserved k = none := by
    intro k
    unfold firstReserved
    rw [hinit.history]
    rfl
  have hinv : NonceInv s := by
    refine ⟨fun k _ => ⟨?_, ?_⟩, fun k first hk => ?_, fun o ho => ?_, fun w i tx hw => ?_⟩
    · unfold CollectorDb.nextNonce?
      rw [hinit.nonces]
      rfl
    · rintro n (⟨o, ho, -⟩ | ⟨w, hw⟩)
      · rw [hinit.outbounds] at ho
        exact absurd ho List.not_mem_nil
      · rw [hinit.idle w] at hw
        exact CollectorPc.not_holdsNonce rfl hw
    · rw [hfirst k] at hk
      cases hk
    · rw [hinit.history] at ho
      exact absurd ho List.not_mem_nil
    · rw [hinit.idle w] at hw
      cases hw
  exact (inv_of_run (P := fun s a => failsHolding s a = false ∧ pendingAhead s a = false)
    (fun _ _ _ h hP hstep => nonceInv_step h hP.1 hP.2 hstep) hinv
    (stepsMeet_and hfails hpending) hr).noHoles

open SmallDeployment in
/-- One collection is confirmed and the next one sent from the same account:
nonces 0 and 1. -/
theorem noHoles_of_two_collections :
    ∃ t, runSteps (step config) initial
        (sentRun ++ .newChain (mined .success) :: confirmBy 1 ++ .createCollection command'
          :: claimJobBy 0 ++ reserveBy 0 ++ storeBy 0 1 0xf1 0xe1) = some t
      ∧ t.db.outboundTransactions.map (fun o => o.nonce) = [0, 1] ∧ NoHoles t := by
  have hrun : (runSteps (step config) initial
      (sentRun ++ .newChain (mined .success) :: confirmBy 1 ++ .createCollection command'
        :: claimJobBy 0 ++ reserveBy 0 ++ storeBy 0 1 0xf1 0xe1)).map
        (fun t => t.db.outboundTransactions.map (fun o => o.nonce)) = some [0, 1] := by decide
  obtain ⟨t, ht, hnonces⟩ := Option.map_eq_some_iff.mp hrun
  exact ⟨t, ht, hnonces, noHoles_of_run initial_initial (by decide) (by decide) ht⟩

open SmallDeployment in
/-- **The property fails in general.** Worker 0 reserves nonce 0 and its signer
fails; when the lease has run out it claims the collection again, reserves
nonce 1 and stores it. Nonce 0 is never stored. -/
theorem noHoles_fails :
    ¬ ∀ (cfg : ℕ → CollectorConfig) (s t : CollectorState) (as : List CollectorAction),
      Initial s → StepsMeet (step cfg) (fun s a => pendingAhead s a = false) s as →
        runSteps (step cfg) s as = some t → NoHoles t := by
  intro hall
  have hrun : (runSteps (step config) initial leakRun).map
        (fun t => (t.firstReserved (1, 0xc1), (t.pc 0).holding?,
          t.db.outboundTransactions.map (fun o => (o.chainId, o.fromAddress, o.nonce.toNat))))
      = some (some 0, none, [(1, 0xc1, 1)]) := by decide
  obtain ⟨t, ht, hend⟩ := Option.map_eq_some_iff.mp hrun
  simp only [Prod.mk.injEq] at hend
  obtain ⟨hfirst, hidle, hstored⟩ := hend
  have hmem : ∀ n, t.db.StoredNonce (1, 0xc1) n ↔ n = 1 := by
    intro n
    have hmap : t.db.StoredNonce (1, 0xc1) n ↔ (1, 0xc1, n) ∈ t.db.outboundTransactions.map
        (fun o => (o.chainId, o.fromAddress, o.nonce.toNat)) := by
      rw [List.mem_map]
      simp only [CollectorDb.StoredNonce, Prod.mk.injEq, and_assoc]
    rw [hmap, hstored]
    simp
  have hfree : ∀ w n, ¬ (t.pc w).HoldsNonce (1, 0xc1) n := by
    intro w n
    refine CollectorPc.not_holdsNonce ?_
    by_cases hw : w = 0
    · rw [hw, hidle]
    · rw [pc_of_run (v := w) (fun v b hv hvw => ?_) ht]
      · rfl
      · have hzero : ∀ a ∈ leakRun, ∀ v b, a = .worker v b → v = 0 := by
          simp [leakRun, claimJobBy, reserveBy, storeBy]
        exact hw (hvw ▸ hzero _ hv v b rfl)
  have hno := hall config initial t leakRun initial_initial (by decide) ht (1, 0xc1) hfree
  rw [hfirst] at hno
  obtain ⟨stop, hstop⟩ := hno
  have hlt := ((hstop 1).mp ((hmem 1).mpr rfl)).2
  exact absurd ((hmem 0).mp ((hstop 0).mpr ⟨Nat.le_refl 0, by omega⟩)) (by decide)

end CollectorState
