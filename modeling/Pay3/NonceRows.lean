import Pay3.LockedRows
import Pay3.OutboundRepository

/-!
# Reserving nonces at the same time

`reserve_nonce` is three statements on the row of an account: an upsert that
moves the counter up to the pending nonce the node reports, a locking read of
the counter, and an increment. `replace_signed_tx` locks the row of the account
it replaces a transaction of, if there is one, and does nothing with it; its
other statements are on other tables. Here any number of both run at the same
time, statement by statement, with pending nonces that may be stale.

Each call is serial on its row, and alone it does what `reserveNonce` says
(`reserve_alone`). The counter only grows, and each reservation takes a value at
or above the counter and leaves the counter above it; so the nonces returned for
one account grow in the order of the commits. Calls on other accounts are not
seen at all.
-/

/-! ## The calls -/

/-- **The calls on the counter of an account.** -/
inductive NonceCall
  | reserveNonce (chainId : ℕ) (fromAddress : EvmAddress) (pendingNonce : RawAmount)
  | replaceSignedTx (chainId : ℕ) (fromAddress : EvmAddress)
  deriving DecidableEq

/-- The upsert of `reserve_nonce`, after the conversion of its arguments. -/
def upsertNonce (chainId : ℕ) (pendingNonce : RawAmount) (row : Option ℕ) :
    Except RepositoryError ℕ := do
  let _ ← u64ToI64 chainId "chain_id"
  match row with
  | none => pure pendingNonce.toNat
  | some next => pure (max next pendingNonce.toNat)

/-- The increment of `reserve_nonce`. -/
def incrementNonce (next : ℕ) : Except RepositoryError ℕ := do
  ensure (decide (next + 1 < numeric78Bound)) (.database (.numericFieldOverflow "next_nonce"))
  return next + 1

/-- **The calls on a counter, statement by statement.** The variable of a
reservation is the counter it has read. -/
def nonceCalls : NonceCall → RowCall (ℕ × EvmAddress) ℕ (Option ℕ) RepositoryError
  | .reserveNonce chainId fromAddress pendingNonce => {
      key := (chainId, fromAddress)
      start := none
      statements := [
        .upsert (fun vars row => (upsertNonce chainId pendingNonce row).map (vars, ·)),
        .read (.database .rowNotFound) (fun _ next => .ok (some next, next)),
        .update (fun vars next => (incrementNonce next).map (vars, ·))]
      guarded := trivial }
  | .replaceSignedTx chainId fromAddress => {
      key := (chainId, fromAddress)
      start := none
      -- `lock_nonce_row`
      statements := [.touch]
      guarded := trivial }

/-- Any number of calls on counters, at the same time. -/
abbrev NonceSystem := RowSystem (ℕ × EvmAddress) ℕ (Option ℕ) RepositoryError NonceCall

/-- **What a reservation returns** once it is committed, with the pending nonce
it was given: the counter it has read, if that is an amount. -/
def reservation : RowEvent NonceCall (Option ℕ) RepositoryError → Option (RawAmount × ReservedNonce)
  | .committed (.reserveNonce chainId fromAddress pendingNonce) (some reserved) =>
    match CollectorDb.decimalToRawAmount reserved "account_nonces.next_nonce" with
    | .ok nonce => some (pendingNonce, ⟨chainId, fromAddress, nonce⟩)
    | .error _ => none
  | _ => none

/-- The reservations of an account, in the order of the commits. -/
def NonceSystem.reservations (s : NonceSystem) (account : ℕ × EvmAddress) :
    List (RawAmount × ReservedNonce) :=
  (s.history.filterMap reservation).filter
    (fun r => decide ((r.2.chainId, r.2.address) = account))

/-- **The nonces returned** for an account, in the order of the commits. -/
def NonceSystem.returnedNonces (s : NonceSystem) (account : ℕ × EvmAddress) : List RawAmount :=
  (s.reservations account).map (fun r => r.2.nonce)

/-! ## One call alone -/

/-- The nonce a reservation takes, given the counter. -/
def reservableAt (pendingNonce : RawAmount) : Option ℕ → ℕ
  | none => pendingNonce.toNat
  | some next => max next pendingNonce.toNat

/-- **A reservation alone**: it takes the counter, or the pending nonce if that
is larger, and leaves the counter one above. -/
theorem reserve_alone (chainId : ℕ) (fromAddress : EvmAddress) (pendingNonce : RawAmount)
    (row : Option ℕ) :
    (nonceCalls (.reserveNonce chainId fromAddress pendingNonce)).alone row = (do
      let _ ← u64ToI64 chainId "chain_id"
      ensure (decide (reservableAt pendingNonce row + 1 < numeric78Bound))
        (.database (.numericFieldOverflow "next_nonce"))
      return (some (reservableAt pendingNonce row),
        some (reservableAt pendingNonce row + 1))) := by
  unfold RowCall.alone
  simp only [nonceCalls, runStatements, RowStatement.run, upsertNonce]
  cases u64ToI64 chainId "chain_id" with
  | error e => rfl
  | ok i =>
    have hupsert : (match row with
        | none => (pure pendingNonce.toNat : Except RepositoryError ℕ)
        | some next => pure (max next pendingNonce.toNat))
          = .ok (reservableAt pendingNonce row) := by
      cases row <;> rfl
    simp only [hupsert, bind, Except.bind, Except.map, incrementNonce]
    unfold ensure
    split_ifs <;> rfl

/-- That is `reserve_nonce` on the counters of the database. -/
theorem reserve_alone_eq_reserveNonce (db : CollectorDb) (chainId : ℕ) (fromAddress : EvmAddress)
    (pendingNonce : RawAmount) :
    (nonceCalls (.reserveNonce chainId fromAddress pendingNonce)).alone
        (db.nextNonce? chainId fromAddress)
      = (db.reserveNonce chainId fromAddress pendingNonce).map (fun r =>
        (some (db.reservableNonce chainId fromAddress pendingNonce),
          r.1.nextNonce? chainId fromAddress)) := by
  have hreservable : reservableAt pendingNonce (db.nextNonce? chainId fromAddress)
      = db.reservableNonce chainId fromAddress pendingNonce := by
    unfold CollectorDb.reservableNonce
    cases db.nextNonce? chainId fromAddress <;> rfl
  rw [reserve_alone, hreservable]
  unfold CollectorDb.reserveNonce
  cases u64ToI64 chainId "chain_id" with
  | error e => rfl
  | ok i =>
    simp only [bind, Except.bind]
    unfold ensure
    split_ifs
    · simp only [Except.map, pure, Except.pure, CollectorDb.nextNonce?_setNonce_self]
    · rfl

/-- A replacement alone leaves the counter as it is. -/
theorem replace_alone (chainId : ℕ) (fromAddress : EvmAddress) (row : Option ℕ) :
    (nonceCalls (.replaceSignedTx chainId fromAddress)).alone row = .ok (none, row) :=
  rfl

/-- What a committed reservation has taken. -/
theorem reserve_alone_ok {chainId : ℕ} {fromAddress : EvmAddress} {pendingNonce : RawAmount}
    {row row' vars : Option ℕ}
    (h : (nonceCalls (.reserveNonce chainId fromAddress pendingNonce)).alone row
      = .ok (vars, row')) :
    ∃ reserved, vars = some reserved ∧ row' = some (reserved + 1) ∧ pendingNonce.toNat ≤ reserved
      ∧ ∀ next ∈ row, next ≤ reserved := by
  rw [reserve_alone] at h
  obtain ⟨_, -, h⟩ := Except.bind_eq_ok.mp h
  obtain ⟨-, h⟩ := ensure_bind_eq_ok.mp h
  obtain ⟨rfl, rfl⟩ := Prod.mk.inj (Except.ok.inj h)
  refine ⟨_, rfl, rfl, ?_, fun next hnext => ?_⟩
  · cases row with
    | none => exact le_rfl
    | some next => exact le_max_right _ _
  · obtain rfl := Option.mem_def.mp hnext
    exact le_max_left _ _

/-! ## One call after the other -/

/-- A reservation that returns says what it was given and what its row was. -/
theorem reservation_eq_some {e : RowEvent NonceCall (Option ℕ) RepositoryError}
    {r : RawAmount × ReservedNonce} (h : reservation e = some r) :
    e = .committed (.reserveNonce r.2.chainId r.2.address r.1) (some r.2.nonce.toNat) := by
  unfold reservation at h
  split at h
  · rename_i chainId fromAddress pendingNonce reserved
    unfold CollectorDb.decimalToRawAmount at h
    split_ifs at h with hlt
    obtain rfl := Option.some.inj h
    simp only [BitVec.toNat_ofNat, Nat.mod_eq_of_lt hlt]
  · cases h

/-- **The counter is above what was returned**, and what was returned grows. -/
structure NoncesGrow (returned : List (RawAmount × ReservedNonce)) (row : Option ℕ) : Prop where
  below : ∀ r ∈ returned, ∃ next, row = some next ∧ r.2.nonce.toNat < next
  grow : returned.Pairwise (fun r r' => r.2.nonce < r'.2.nonce)
  pending : ∀ r ∈ returned, r.1 ≤ r.2.nonce

section Grow

variable {returned : List (RawAmount × ReservedNonce)} {row row' : Option ℕ}

/-- A counter may move up. -/
theorem NoncesGrow.mono (h : NoncesGrow returned row)
    (hrow : ∀ next ∈ row, ∃ next', row' = some next' ∧ next ≤ next') :
    NoncesGrow returned row' := by
  refine ⟨fun r hr => ?_, h.grow, h.pending⟩
  obtain ⟨next, hnext, hlt⟩ := h.below r hr
  obtain ⟨next', hrow', hle⟩ := hrow next hnext
  exact ⟨next', hrow', lt_of_lt_of_le hlt hle⟩

/-- One more nonce is returned, at the counter or above it. -/
theorem NoncesGrow.concat (h : NoncesGrow returned row) {r : RawAmount × ReservedNonce}
    (hrow : ∀ next ∈ row, next ≤ r.2.nonce.toNat) (hpending : r.1 ≤ r.2.nonce) :
    NoncesGrow (returned ++ [r]) (some (r.2.nonce.toNat + 1)) := by
  have hlt : ∀ r' ∈ returned, r'.2.nonce.toNat < r.2.nonce.toNat := by
    intro r' hr'
    obtain ⟨next, hnext, hbelow⟩ := h.below r' hr'
    exact lt_of_lt_of_le hbelow (hrow next hnext)
  refine ⟨fun r' hr' => ?_, ?_, fun r' hr' => ?_⟩
  · rcases List.mem_append.mp hr' with hr' | hr'
    · exact ⟨_, rfl, Nat.lt_succ_of_lt (hlt r' hr')⟩
    · rw [List.mem_singleton.mp hr']
      exact ⟨_, rfl, Nat.lt_succ_self _⟩
  · refine List.pairwise_append.mpr ⟨h.grow, List.pairwise_singleton _ _, fun r' hr' r'' hr'' => ?_⟩
    rw [List.mem_singleton.mp hr'']
    exact BitVec.lt_def.mpr (hlt r' hr')
  · rcases List.mem_append.mp hr' with hr' | hr'
    · exact h.pending r' hr'
    · rw [List.mem_singleton.mp hr']
      exact hpending

end Grow

/-- What is returned is of the account of the call. -/
theorem reservation_account {call : NonceCall} {vars : Option ℕ} {r : RawAmount × ReservedNonce}
    (h : reservation (.committed call vars) = some r) :
    (r.2.chainId, r.2.address) = (nonceCalls call).key := by
  obtain ⟨rfl, -⟩ := RowEvent.committed.inj (reservation_eq_some h)
  rfl

/-- **No call moves a counter down.** -/
theorem counter_up {rows : ℕ × EvmAddress → Option ℕ} {call : NonceCall} {vars row : Option ℕ}
    (account : ℕ × EvmAddress)
    (halone : (nonceCalls call).alone (rows (nonceCalls call).key) = .ok (vars, row)) :
    ∀ next ∈ rows account,
      ∃ next', Function.update rows (nonceCalls call).key row account = some next'
        ∧ next ≤ next' := by
  intro next hnext
  by_cases hsame : account = (nonceCalls call).key
  · subst hsame
    rw [Function.update_self]
    cases call with
    | reserveNonce chainId fromAddress pendingNonce =>
      obtain ⟨reserved, -, hrow, -, hle⟩ := reserve_alone_ok halone
      exact ⟨reserved + 1, hrow, Nat.le_succ_of_le (hle next hnext)⟩
    | replaceSignedTx chainId fromAddress =>
      rw [replace_alone] at halone
      obtain ⟨-, rfl⟩ := Prod.mk.inj (Except.ok.inj halone)
      exact ⟨next, hnext, le_rfl⟩
  · rw [Function.update_of_ne hsame]
    exact ⟨next, hnext, le_rfl⟩

/-- Along a serial history the nonces of an account grow. -/
theorem noncesGrow_of_serial {start rows : ℕ × EvmAddress → Option ℕ} (account : ℕ × EvmAddress)
    {history : List (RowEvent NonceCall (Option ℕ) RepositoryError)}
    (h : SerialHistory nonceCalls start history rows) :
    NoncesGrow ((history.filterMap reservation).filter
      (fun r => decide ((r.2.chainId, r.2.address) = account))) (rows account) := by
  induction h with
  | nil => exact ⟨nofun, List.Pairwise.nil, nofun⟩
  | @committed history rows call vars row h halone ih =>
    rw [List.filterMap_append, List.filter_append]
    cases hres : reservation (.committed call vars) with
    | none =>
      rw [List.filterMap_cons_none hres, List.filterMap_nil, List.filter_nil, List.append_nil]
      exact ih.mono (counter_up account halone)
    | some r =>
      rw [List.filterMap_cons_some hres, List.filterMap_nil]
      have haccount := reservation_account hres
      by_cases hsame : account = (nonceCalls call).key
      · subst hsame
        rw [List.filter_cons_of_pos (by simp only [haccount, decide_true]), List.filter_nil,
          Function.update_self]
        obtain ⟨rfl, rfl⟩ := RowEvent.committed.inj (reservation_eq_some hres)
        obtain ⟨reserved, hvars, rfl, hpending, hnext⟩ := reserve_alone_ok halone
        rw [← Option.some.inj hvars] at hpending hnext ⊢
        exact ih.concat hnext (BitVec.le_def.mpr hpending)
      · rw [Function.update_of_ne hsame, List.filter_cons_of_neg
          (by simpa [haccount] using Ne.symm hsame), List.filter_nil, List.append_nil]
        exact ih
  | failed h halone ih =>
    rw [List.filterMap_append, List.filterMap_cons_none rfl, List.filterMap_nil, List.append_nil]
    exact ih

/-! ## Any interleaving -/

/-- **Nonces are reserved once**, by any number of calls in any interleaving of
their statements, whatever pending nonces they are given: those returned for one
account grow in the order of the commits, so that no two are the same, and each
is at least the pending nonce of its call. The calls on one account run as if
there were no others: without the actions of the others they do the same, and
none of their statements waits for another account. -/
theorem returned_nonces_grow {s s' : NonceSystem} {as : List (RowAction NonceCall)}
    (hinit : s.Initial) (hrun : runSteps (RowSystem.step nonceCalls) s as = some s')
    (account : ℕ × EvmAddress) :
    (s'.returnedNonces account).Pairwise (· < ·)
      ∧ (s'.returnedNonces account).Nodup
      ∧ (∀ r ∈ s'.reservations account, r.1 ≤ r.2.nonce)
      ∧ (∃ as', as'.Sublist as
        ∧ runSteps (RowSystem.step nonceCalls) (s.restrict nonceCalls account) as'
          = some (s'.restrict nonceCalls account))
      ∧ ∀ t, s'.RunsOn nonceCalls account t →
        (s'.restrict nonceCalls account).step nonceCalls (.statement t)
          = (s'.step nonceCalls (.statement t)).map (RowSystem.restrict nonceCalls account) := by
  have hgrow := noncesGrow_of_serial account (serial_of_run hinit hrun)
  have hlt : (s'.returnedNonces account).Pairwise (· < ·) := List.pairwise_map.mpr hgrow.grow
  exact ⟨hlt, hlt.imp BitVec.ne_of_lt, hgrow.pending, (restrict_run hinit account hrun).2,
    fun t hon => RowSystem.step_restrict hon .statement⟩

/-- The first two reservations of an account race for the insert, the second
with a pending nonce that is behind; a replacement locks the row between them. -/
theorem returned_nonces_grow_at_first_insert :
    let account : ℕ × EvmAddress := (1, 0xaa)
    let s : NonceSystem :=
      { rows := fun _ => none, locks := fun _ => none, txs := fun _ => .idle, history := [] }
    let begins := [RowAction.begin 0 (.reserveNonce 1 0xaa 7), .begin 1 (.reserveNonce 1 0xaa 3),
      .begin 2 (.replaceSignedTx 1 0xaa)]
    let run := begins ++ [.statement 0, .statement 0, .statement 0, .commit 0, .statement 2,
      .commit 2, .statement 1, .statement 1, .statement 1, .commit 1]
    runSteps (RowSystem.step nonceCalls) s (begins ++ [.statement 0, .statement 1]) = none
      ∧ ∃ s' : NonceSystem, runSteps (RowSystem.step nonceCalls) s run = some s'
        ∧ s'.returnedNonces account = [7, 8]
        ∧ (s'.returnedNonces account).Pairwise (· < ·) := by
  intro account s begins run
  have hinit : s.Initial := ⟨fun _ => rfl, fun _ => rfl, rfl⟩
  have hwaits : (runSteps (RowSystem.step nonceCalls) s
      (begins ++ [.statement 0, .statement 1])).isNone = true := by
    decide +kernel
  have hsome : (runSteps (RowSystem.step nonceCalls) s run).map
      (fun (s' : NonceSystem) => s'.returnedNonces account) = some [7, 8] := by
    decide +kernel
  obtain ⟨s', hrun, hnonces⟩ := Option.map_eq_some_iff.mp hsome
  exact ⟨Option.isNone_iff_eq_none.mp hwaits, s', hrun, hnonces,
    (returned_nonces_grow hinit hrun account).1⟩
