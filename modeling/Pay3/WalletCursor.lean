import Pay3.LockedRows
import Pay3.OrderRepository
import Mathlib.Data.List.Chain
import Mathlib.Data.Prod.Lex
import Mathlib.Order.Cover

/-!
# Handing out derivation segments

Every order gets a receive address of its own, derived at the segment the
wallet cursor stands at. `allocate_derivation_segment` reads the cursor's row
under a lock, computes the next segment, writes it back and commits, all before
anything else of the order is done; so an order creation that fails later, or
crashes, has used its segment up.

The segments are ordered by account, then change, then address, and the next
segment is the one right above in that order: `DerivationSegment.next` carries
from the addresses to the changes and from the changes to the accounts, and
fails on the very last segment. With calls on one row being serial, the segments
handed out are an unbroken chain from where the cursor stood
(`allocated_segments_chain`), whatever ran at the same time.
-/

/-! ## Segments -/

/-- `DerivationSegmentError`. -/
inductive DerivationSegmentError
  | indexOutOfRange (field : String) (value max : ℕ)
  | exhausted
  deriving DecidableEq

namespace DerivationSegment

/-- **`DerivationSegment::new`**, with `validate_index` on each index. -/
def new (accountIndex changeIndex addressIndex : ℕ) :
    Except DerivationSegmentError DerivationSegment :=
  if haccount : accountIndex ≤ maxDerivationIndex then
    if hchange : changeIndex ≤ maxDerivationIndex then
      if haddress : addressIndex ≤ maxDerivationIndex then
        .ok ⟨accountIndex, changeIndex, addressIndex, haccount, hchange, haddress⟩
      else .error (.indexOutOfRange "address" addressIndex maxDerivationIndex)
    else .error (.indexOutOfRange "change" changeIndex maxDerivationIndex)
  else .error (.indexOutOfRange "account" accountIndex maxDerivationIndex)

/-- **`DerivationSegment::next`.** -/
def next (s : DerivationSegment) : Except DerivationSegmentError DerivationSegment :=
  if s.addressIndex < maxDerivationIndex then
    new s.accountIndex s.changeIndex (s.addressIndex + 1)
  else if s.changeIndex < maxDerivationIndex then new s.accountIndex (s.changeIndex + 1) 0
  else if s.accountIndex < maxDerivationIndex then new (s.accountIndex + 1) 0 0
  else .error .exhausted

/-- The three indices, to be compared from the left. -/
def lexKey (s : DerivationSegment) : ℕ ×ₗ ℕ ×ₗ ℕ :=
  toLex (s.accountIndex, toLex (s.changeIndex, s.addressIndex))

theorem lexKey_injective : Function.Injective lexKey := by
  rintro ⟨a, c, i, _, _, _⟩ ⟨a', c', i', _, _, _⟩ h
  simp only [lexKey, EmbeddingLike.apply_eq_iff_eq, Prod.mk.injEq] at h
  obtain ⟨rfl, rfl, rfl⟩ := h
  rfl

/-- **Segments are compared by account, then by change, then by address.** -/
instance : LinearOrder DerivationSegment := LinearOrder.lift' lexKey lexKey_injective

variable {s s' : DerivationSegment}

theorem lt_iff : s < s' ↔ s.accountIndex < s'.accountIndex
    ∨ s.accountIndex = s'.accountIndex ∧ (s.changeIndex < s'.changeIndex
      ∨ s.changeIndex = s'.changeIndex ∧ s.addressIndex < s'.addressIndex) := by
  show lexKey s < lexKey s' ↔ _
  simp only [lexKey, Prod.Lex.toLex_lt_toLex]

/-- Indices in range make a segment. -/
theorem new_eq_ok {accountIndex changeIndex addressIndex : ℕ}
    (h : new accountIndex changeIndex addressIndex = .ok s) :
    s.accountIndex = accountIndex ∧ s.changeIndex = changeIndex
      ∧ s.addressIndex = addressIndex := by
  unfold new at h
  split_ifs at h
  rw [← Except.ok.inj h]
  exact ⟨rfl, rfl, rfl⟩

/-- **The next segment is the one right above**: it is larger, and there is no
segment in between, also where the address or the change begins again at 0. -/
theorem covBy_of_next (h : s.next = .ok s') : s ⋖ s' := by
  unfold next at h
  have := s.change_le
  have := s.address_le
  refine ⟨?_, fun c hlow hhigh => ?_⟩
  · rw [lt_iff]
    split_ifs at h <;> obtain ⟨h₁, h₂, h₃⟩ := new_eq_ok h <;> omega
  · have := c.change_le
    have := c.address_le
    rw [lt_iff] at hlow hhigh
    split_ifs at h <;> obtain ⟨h₁, h₂, h₃⟩ := new_eq_ok h <;> omega

/-- Indices in range are not refused. -/
theorem new_ne_error {accountIndex changeIndex addressIndex : ℕ} {e : DerivationSegmentError}
    (haccount : accountIndex ≤ maxDerivationIndex) (hchange : changeIndex ≤ maxDerivationIndex)
    (haddress : addressIndex ≤ maxDerivationIndex) :
    new accountIndex changeIndex addressIndex ≠ .error e := by
  unfold new
  rw [dif_pos haccount, dif_pos hchange, dif_pos haddress]
  exact fun h => nomatch h

/-- **There is a next segment until the last one.** -/
theorem next_eq_error {e : DerivationSegmentError} (h : s.next = .error e) :
    e = .exhausted ∧ IsMax s := by
  unfold next at h
  split_ifs at h with haddress hchange haccount
  · exact absurd h (new_ne_error s.account_le s.change_le haddress)
  · exact absurd h (new_ne_error s.account_le hchange (Nat.zero_le _))
  · exact absurd h (new_ne_error haccount (Nat.zero_le _) (Nat.zero_le _))
  · refine ⟨(Except.error.inj h).symm, isMax_iff_forall_not_lt.mpr (fun c hlt => ?_)⟩
    have := c.account_le
    have := c.change_le
    have := c.address_le
    rw [lt_iff] at hlt
    omega

end DerivationSegment

/-! ## The cursor -/

/-- A row of `wallet_cursors`: the table checks the ranges of the indices. -/
structure WalletCursor where
  signerKeyRef : String
  derivationVersion : ℕ
  segment : DerivationSegment
  deriving DecidableEq

/-- `AllocatedDerivation`. -/
structure AllocatedDerivation where
  signerKeyRef : String
  derivationVersion : ℕ
  segment : DerivationSegment
  derivationPath : String
  deriving DecidableEq

/-- `From<DerivationSegmentError> for RepositoryError`. -/
def DerivationSegmentError.toRepositoryError : DerivationSegmentError → RepositoryError
  | .exhausted => .derivationExhausted
  | .indexOutOfRange field value max =>
    .invalidDbValue field (toString value)
      ("derivation index exceeds maximum " ++ toString max)

/-- The errors of the calls on a cursor. -/
inductive CursorError
  | repository (error : RepositoryError)
  | database (error : DbError)
  | protocol (message : String)
  deriving DecidableEq

/-- **The calls on a cursor**: one more segment is asked for, or a service
starts and sees to it that the cursor is the one of its key. -/
inductive CursorCall
  | allocateDerivationSegment (cursorId : String)
  | seedWalletCursorKey (signerKeyRef : String)
  deriving DecidableEq

/-- The variables of an allocation, once it has read its row: what it will
return, and the next segment. -/
abbrev AllocationVars := Option (AllocatedDerivation × DerivationSegment)

/-- What an allocation makes of the row it reads. -/
def allocated (row : WalletCursor) : AllocatedDerivation where
  signerKeyRef := row.signerKeyRef
  derivationVersion := row.derivationVersion
  segment := row.segment
  derivationPath := row.segment.derivationPath

/-- `SELECT … FOR UPDATE` of `allocate_derivation_segment_tx`, and the next
segment. -/
def selectCursor (row : WalletCursor) : Except CursorError (AllocationVars × WalletCursor) :=
  match row.segment.next with
  | .ok next => .ok (some (allocated row, next), row)
  | .error e => .error (.repository e.toRepositoryError)

/-- `UPDATE` of `allocate_derivation_segment_tx`. -/
def updateCursor (vars : AllocationVars) (row : WalletCursor) : WalletCursor :=
  match vars with
  | some (_, next) => { row with segment := next }
  | none => row

/-- The statement of `seed_wallet_cursor_key`: a new cursor starts at the first
segment; one that is there keeps its segment. -/
def seedCursor (signerKeyRef : String) (row : Option WalletCursor) :
    Except CursorError WalletCursor := do
  ensure (decide (signerKeyRef ≠ ""))
    (.database (.checkViolation "wallet_cursors_signer_key_ref_check"))
  match row with
  | none => pure ⟨signerKeyRef, 1, ⟨0, 0, 0, Nat.zero_le _, Nat.zero_le _, Nat.zero_le _⟩⟩
  | some row =>
    if row.signerKeyRef = "unconfigured" ∨ row.signerKeyRef = signerKeyRef then
      pure { row with signerKeyRef := signerKeyRef }
    else .error (.protocol "wallet cursor signer_key_ref differs from runtime config")

/-- **The calls on a cursor, statement by statement.** -/
def cursorCalls : CursorCall → RowCall String WalletCursor AllocationVars CursorError
  | .allocateDerivationSegment cursorId => {
      key := cursorId
      start := none
      statements := [
        .read (.repository (.notFound "wallet_cursors" cursorId)) (fun _ row => selectCursor row),
        .update (fun vars row => .ok (vars, updateCursor vars row))]
      guarded := trivial }
  | .seedWalletCursorKey signerKeyRef => {
      key := "default"
      start := none
      statements := [.upsert (fun vars row => (seedCursor signerKeyRef row).map (vars, ·))]
      guarded := trivial }

/-- Any number of calls on cursors, at the same time. -/
abbrev CursorSystem := RowSystem String WalletCursor AllocationVars CursorError CursorCall

/-- What an event says was handed out by the cursor. -/
def allocatedSegment (cursorId : String) :
    RowEvent CursorCall AllocationVars CursorError → Option DerivationSegment
  | .committed (.allocateDerivationSegment id) vars =>
    if id = cursorId then vars.map (fun r => r.1.segment) else none
  | _ => none

/-- **The segments handed out** by a cursor, in the order of the commits. -/
def CursorSystem.allocatedSegments (s : CursorSystem) (cursorId : String) :
    List DerivationSegment :=
  s.history.filterMap (allocatedSegment cursorId)

/-! ## One call after the other -/

/-- **An allocation alone**: it hands out the segment of its row, and moves the
row to the next one. -/
theorem allocate_alone (cursorId : String) (row : Option WalletCursor) :
    (cursorCalls (.allocateDerivationSegment cursorId)).alone row
      = match row with
        | none => .error (.repository (.notFound "wallet_cursors" cursorId))
        | some cursor => match cursor.segment.next with
          | .ok next => .ok (some (allocated cursor, next), some { cursor with segment := next })
          | .error e => .error (.repository e.toRepositoryError) := by
  cases row with
  | none => rfl
  | some cursor =>
    show ((selectCursor cursor).map (fun r => (r.1, some r.2)) >>= fun r =>
        runStatements r.1 r.2 [.update (fun vars row => .ok (vars, updateCursor vars row))]) = _
    unfold selectCursor
    cases hnext : cursor.segment.next <;> simp only [hnext] <;> rfl

/-- **`allocate_derivation_segment`**, on the row of its cursor. -/
def allocateDerivationSegment (cursorId : String) (row : Option WalletCursor) :
    Except RepositoryError (AllocatedDerivation × WalletCursor) := do
  let cursor ← orError row (.notFound "wallet_cursors" cursorId)
  let next ← cursor.segment.next.mapError DerivationSegmentError.toRepositoryError
  return (allocated cursor, { cursor with segment := next })

/-- Since calls on a cursor are serial, that is what an allocation does. -/
theorem allocate_alone_eq (cursorId : String) (row : Option WalletCursor) :
    ((cursorCalls (.allocateDerivationSegment cursorId)).alone row).map
        (fun r => (r.1.map Prod.fst, r.2))
      = ((allocateDerivationSegment cursorId row).mapError CursorError.repository).map
        (fun r => (some r.1, some r.2)) := by
  rw [allocate_alone]
  unfold allocateDerivationSegment
  cases row with
  | none => rfl
  | some cursor =>
    simp only [orError, bind, Except.bind]
    cases cursor.segment.next <;> rfl

/-- An allocation hands out the segment of the cursor and moves it right above. -/
theorem allocateDerivationSegment_eq_ok {cursorId : String} {row : Option WalletCursor}
    {a : AllocatedDerivation} {cursor' : WalletCursor}
    (h : allocateDerivationSegment cursorId row = .ok (a, cursor')) :
    ∃ cursor, row = some cursor ∧ a = allocated cursor ∧ cursor.segment ⋖ cursor'.segment := by
  unfold allocateDerivationSegment at h
  obtain ⟨cursor, hrow, h⟩ := Except.bind_eq_ok.mp h
  obtain ⟨next, hnext, h⟩ := Except.bind_eq_ok.mp h
  obtain ⟨rfl, rfl⟩ := Prod.mk.inj (Except.ok.inj h)
  exact ⟨cursor, orError_eq_ok.mp hrow, rfl,
    DerivationSegment.covBy_of_next (Except.mapError_eq_ok.mp hnext)⟩

/-- A start of a service leaves the segment of a cursor where it is. -/
theorem seedCursor_segment {signerKeyRef : String} {cursor cursor' : WalletCursor}
    (h : seedCursor signerKeyRef (some cursor) = .ok cursor') :
    cursor'.segment = cursor.segment := by
  unfold seedCursor at h
  obtain ⟨-, h⟩ := ensure_bind_eq_ok.mp h
  simp only at h
  split_ifs at h
  rw [← Except.ok.inj h]

/-- A start of a service, alone. -/
theorem seed_alone (signerKeyRef : String) (row : Option WalletCursor) :
    (cursorCalls (.seedWalletCursorKey signerKeyRef)).alone row
      = (seedCursor signerKeyRef row).map (fun cursor => (none, some cursor)) := by
  show ((((seedCursor signerKeyRef row).map ((none : AllocationVars), ·)).map
      (fun r => (r.1, some r.2))) >>= fun r => .ok r) = _
  cases seedCursor signerKeyRef row <;> rfl

/-- **What a committed call does to a cursor**: it hands out its segment and
moves it on, or it leaves the segment alone. -/
theorem cursor_committed {rows : String → Option WalletCursor} {cursorId : String}
    {cursor : WalletCursor} {call : CursorCall} {vars : AllocationVars} {row : Option WalletCursor}
    (hrow : rows cursorId = some cursor)
    (halone : (cursorCalls call).alone (rows (cursorCalls call).key) = .ok (vars, row)) :
    (∃ next, call = .allocateDerivationSegment cursorId ∧ cursor.segment.next = .ok next
        ∧ vars = some (allocated cursor, next)
        ∧ Function.update rows (cursorCalls call).key row cursorId
          = some { cursor with segment := next })
      ∨ call ≠ .allocateDerivationSegment cursorId
        ∧ ∃ cursor', Function.update rows (cursorCalls call).key row cursorId = some cursor'
          ∧ cursor'.segment = cursor.segment := by
  cases call with
  | allocateDerivationSegment id =>
    change (cursorCalls (.allocateDerivationSegment id)).alone (rows id) = _ at halone
    show _ ∨ _ ∧ ∃ cursor', Function.update rows id row cursorId = some cursor' ∧ _
    by_cases hid : cursorId = id
    · subst hid
      rw [allocate_alone, hrow] at halone
      cases hnext : cursor.segment.next with
      | error e => simp only [hnext, reduceCtorEq] at halone
      | ok next =>
        simp only [hnext, Except.ok.injEq, Prod.mk.injEq] at halone
        refine Or.inl ⟨next, rfl, rfl, halone.1.symm, ?_⟩
        show Function.update rows cursorId row cursorId = _
        rw [Function.update_self, ← halone.2]
    · refine Or.inr ⟨fun h => hid (CursorCall.allocateDerivationSegment.inj h).symm, cursor, ?_, rfl⟩
      rw [Function.update_of_ne hid, hrow]
  | seedWalletCursorKey signerKeyRef =>
    change (cursorCalls (.seedWalletCursorKey signerKeyRef)).alone (rows "default") = _ at halone
    refine Or.inr ⟨nofun, ?_⟩
    show ∃ cursor', Function.update rows "default" row cursorId = some cursor' ∧ _
    by_cases hid : cursorId = "default"
    · subst hid
      rw [seed_alone, hrow] at halone
      cases hseed : seedCursor signerKeyRef (some cursor) with
      | error e =>
        rw [hseed] at halone
        cases halone
      | ok cursor' =>
        rw [hseed] at halone
        obtain ⟨-, rfl⟩ := Prod.mk.inj (Except.ok.inj halone)
        exact ⟨cursor', Function.update_self _ _ _, seedCursor_segment hseed⟩
    · exact ⟨cursor, by rw [Function.update_of_ne hid, hrow], rfl⟩

/-- **The chain of a cursor**: the segments handed out so far and then the one
the cursor stands at, each right above the one before, from where the cursor
stood at first. -/
def CursorChain (first : DerivationSegment) (segments : List DerivationSegment)
    (row : Option WalletCursor) : Prop :=
  ∃ cursor, row = some cursor ∧ (segments ++ [cursor.segment]).head? = some first
    ∧ (segments ++ [cursor.segment]).IsChain (· ⋖ ·)

/-- The cursor hands out its segment and moves on. -/
theorem CursorChain.allocate {first next : DerivationSegment} {segments : List DerivationSegment}
    {cursor : WalletCursor} (h : CursorChain first segments (some cursor))
    (hnext : cursor.segment.next = .ok next) :
    CursorChain first (segments ++ [cursor.segment]) (some { cursor with segment := next }) := by
  obtain ⟨cursor', hrow, hhead, hchain⟩ := h
  obtain rfl := Option.some.inj hrow
  refine ⟨_, rfl, ?_, ?_⟩
  · rw [List.head?_append, hhead]
    rfl
  · rw [List.append_assoc]
    exact List.isChain_append_cons_cons.mpr
      ⟨hchain, DerivationSegment.covBy_of_next hnext, List.isChain_singleton _⟩

/-- What is heard of other calls is not handed out by the cursor. -/
theorem allocatedSegment_of_ne {cursorId : String} {call : CursorCall} (vars : AllocationVars)
    (h : call ≠ .allocateDerivationSegment cursorId) :
    allocatedSegment cursorId (.committed call vars) = none := by
  cases call with
  | allocateDerivationSegment id =>
    have hid : id ≠ cursorId := fun hid => h (congrArg _ hid)
    exact if_neg hid
  | seedWalletCursorKey signerKeyRef => rfl

/-- Along a serial history a cursor hands out its chain. -/
theorem cursorChain_of_serial {start rows : String → Option WalletCursor} {cursorId : String}
    {first : WalletCursor} {history : List (RowEvent CursorCall AllocationVars CursorError)}
    (hfirst : start cursorId = some first) (h : SerialHistory cursorCalls start history rows) :
    CursorChain first.segment (history.filterMap (allocatedSegment cursorId)) (rows cursorId) := by
  induction h with
  | nil => exact ⟨first, hfirst, rfl, List.isChain_singleton _⟩
  | @committed history rows call vars row h halone ih =>
    rw [List.filterMap_append]
    obtain ⟨cursor, hrow, hhead, hchain⟩ := id ih
    rcases cursor_committed hrow halone with ⟨next, rfl, hnext, rfl, hupdate⟩ | ⟨hne, cursor', hupdate, hsegment⟩
    · rw [hrow] at ih
      rw [hupdate, show [RowEvent.committed (.allocateDerivationSegment cursorId)
        (some (allocated cursor, next))].filterMap (allocatedSegment cursorId) = [cursor.segment]
          by simp [allocatedSegment, allocated]]
      exact ih.allocate hnext
    · rw [hupdate, List.filterMap_cons_none (allocatedSegment_of_ne vars hne), List.filterMap_nil,
        List.append_nil]
      exact ⟨cursor', rfl, by rw [hsegment]; exact hhead, by rw [hsegment]; exact hchain⟩
  | failed h halone ih =>
    rw [List.filterMap_append, List.filterMap_cons_none rfl, List.filterMap_nil, List.append_nil]
    exact ih

/-- **A cursor at its end stays there**: from then on every allocation reports
it. -/
theorem exhausted_of_serial {start rows : String → Option WalletCursor} {cursorId : String}
    {last : WalletCursor} {history : List (RowEvent CursorCall AllocationVars CursorError)}
    (hlast : start cursorId = some last) (hend : last.segment.next = .error .exhausted)
    (h : SerialHistory cursorCalls start history rows) :
    (∃ cursor, rows cursorId = some cursor ∧ cursor.segment.next = .error .exhausted)
      ∧ ∀ e ∈ history, e.call = .allocateDerivationSegment cursorId
        → e = .failed (.allocateDerivationSegment cursorId) (.repository .derivationExhausted) := by
  induction h with
  | nil => exact ⟨⟨last, hlast, hend⟩, fun e he => by cases he⟩
  | committed h halone ih =>
    obtain ⟨⟨cursor, hrow, hcursor⟩, hevents⟩ := ih
    rcases cursor_committed hrow halone with ⟨next, -, hnext, -⟩ | ⟨hne, cursor', hupdate, hsegment⟩
    · rw [hcursor] at hnext
      cases hnext
    · refine ⟨⟨cursor', hupdate, hsegment ▸ hcursor⟩, fun e he hcall => ?_⟩
      rcases List.mem_append.mp he with he | he
      · exact hevents e he hcall
      · rw [List.mem_singleton.mp he] at hcall
        exact absurd hcall hne
  | @failed history rows call error h halone ih =>
    obtain ⟨⟨cursor, hrow, hcursor⟩, hevents⟩ := ih
    refine ⟨⟨cursor, hrow, hcursor⟩, fun e he hcall => ?_⟩
    rcases List.mem_append.mp he with he | he
    · exact hevents e he hcall
    · rw [List.mem_singleton.mp he] at hcall ⊢
      change call = _ at hcall
      subst hcall
      change (cursorCalls (.allocateDerivationSegment cursorId)).alone (rows cursorId) = _ at halone
      rw [allocate_alone, hrow] at halone
      simp only [hcursor] at halone
      rw [← Except.error.inj halone]
      rfl

/-! ## Any interleaving -/

/-- **Derivation segments are handed out in order**, by any number of calls in
any interleaving, with calls lost at any point: those of one cursor start where
it stood, each is the one right above the one before it, and so all of them are
different. A call that reports the end leaves the cursor where it is, and every
call after it reports the end as well. -/
theorem allocated_segments_chain {s s' : CursorSystem} {as : List (RowAction CursorCall)}
    (hinit : s.Initial) (hrun : runSteps (RowSystem.step cursorCalls) s as = some s')
    {cursorId : String} {cursor : WalletCursor} (hcursor : s.rows cursorId = some cursor) :
    (∀ first, (s'.allocatedSegments cursorId).head? = some first → first = cursor.segment)
      ∧ (s'.allocatedSegments cursorId).IsChain (· ⋖ ·)
      ∧ (s'.allocatedSegments cursorId).Pairwise (· < ·)
      ∧ (s'.allocatedSegments cursorId).Nodup
      ∧ (∀ a s'', s'.step cursorCalls a = some s''
        → s''.history = s'.history ++ [.failed (.allocateDerivationSegment cursorId)
          (.repository .derivationExhausted)]
        → s''.rows = s'.rows)
      ∧ ∀ before after, s'.history = before ++ .failed (.allocateDerivationSegment cursorId)
          (.repository .derivationExhausted) :: after
        → ∀ e ∈ after, e.call = .allocateDerivationSegment cursorId
          → e = .failed (.allocateDerivationSegment cursorId)
            (.repository .derivationExhausted) := by
  have hserial := serial_of_run hinit hrun
  obtain ⟨cursor', -, hhead, hall⟩ := cursorChain_of_serial hcursor hserial
  have hchain : (s'.allocatedSegments cursorId).IsChain (· ⋖ ·) := hall.left_of_append
  have hlt : (s'.allocatedSegments cursorId).Pairwise (· < ·) :=
    (hchain.imp (fun _ _ h => h.lt)).pairwise
  refine ⟨fun first hfirst => ?_, hchain, hlt, hlt.imp ne_of_lt,
    fun a s'' hst hheard => rows_of_failed hst hheard, fun before after hhistory => ?_⟩
  · change (s'.allocatedSegments cursorId ++ _).head? = _ at hhead
    rw [List.head?_append, hfirst] at hhead
    exact Option.some.inj hhead
  · -- the call that reports the end found the cursor on the last segment
    rw [hhistory] at hserial
    obtain ⟨mid, hbefore, halone, hafter⟩ := hserial.of_failed
    obtain ⟨last, hlast, -, -⟩ := cursorChain_of_serial hcursor hbefore
    change (cursorCalls (.allocateDerivationSegment cursorId)).alone (mid cursorId) = _ at halone
    rw [allocate_alone, hlast] at halone
    have hend : last.segment.next = .error .exhausted := by
      cases hnext : last.segment.next with
      | ok next => simp only [hnext, reduceCtorEq] at halone
      | error e => rw [(DerivationSegment.next_eq_error hnext).1]
    exact (exhausted_of_serial hlast hend hafter).2

/-- Two allocations at once across a rollover: the second waits for the row the
first has locked, and sees it moved on. A third is lost before its commit. -/
theorem allocated_segments_chain_at_rollover :
    let first : DerivationSegment :=
      ⟨0, 0, maxDerivationIndex, Nat.zero_le _, Nat.zero_le _, le_rfl⟩
    let second : DerivationSegment := ⟨0, 1, 0, Nat.zero_le _, by decide, Nat.zero_le _⟩
    let s : CursorSystem :=
      { rows := fun id => if id = "default" then some ⟨"key", 1, first⟩ else none
        locks := fun _ => none
        txs := fun _ => .idle
        history := [] }
    let call := CursorCall.allocateDerivationSegment "default"
    let waits := [RowAction.begin 0 call, .begin 1 call, .statement 0, .statement 1]
    let run := [RowAction.begin 0 call, .begin 1 call, .begin 2 call, .statement 0, .statement 0,
      .commit 0, .statement 2, .crash 2, .statement 1, .statement 1, .commit 1]
    runSteps (RowSystem.step cursorCalls) s waits = none
      ∧ ∃ s' : CursorSystem, runSteps (RowSystem.step cursorCalls) s run = some s'
        ∧ s'.allocatedSegments "default" = [first, second]
        ∧ (s'.allocatedSegments "default").IsChain (· ⋖ ·) := by
  intro first second s call waits run
  have hinit : s.Initial := ⟨fun _ => rfl, fun _ => rfl, rfl⟩
  have hsome : (runSteps (RowSystem.step cursorCalls) s run).map
      (fun (s' : CursorSystem) => s'.allocatedSegments "default") = some [first, second] := by
    decide +kernel
  have hwaits : (runSteps (RowSystem.step cursorCalls) s waits).isNone = true := by decide +kernel
  obtain ⟨s', hrun, hsegments⟩ := Option.map_eq_some_iff.mp hsome
  have hcursor : s.rows "default" = some ⟨"key", 1, first⟩ := rfl
  exact ⟨Option.isNone_iff_eq_none.mp hwaits, s', hrun, hsegments,
    (allocated_segments_chain hinit hrun hcursor).2.1⟩
