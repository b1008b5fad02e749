import Pay3.ReadCommitted
import Pay3.Runs
import Mathlib.Data.List.Induction

/-!
# Calls that work on one row

A call is a transaction whose statements all work on the row of one key:
`INSERT … ON CONFLICT DO UPDATE`, `SELECT … FOR UPDATE` and `UPDATE`. Any number
of them run at the same time, statement by statement, under row locks and
`READ COMMITTED`. A statement waits until the lock of its row is free, and then
sees the row as it was committed last, or as its own transaction left it; a
statement that needs a row and finds none takes no lock. A call ends by its
commit, by the error of one of its statements, or by a crash, and in the last
two cases nothing of it remains.

The result is that such calls are serial: in the order of their commits, each
of them does what it would have done alone on the row its predecessor left
(`serial_of_run`). So what one wants to know about an interleaving is a fact
about calls that run one after the other.

Keys, rows, the variables of a call and its errors are of any type.
-/

variable {κ ρ σ ε γ : Type}

/-! ## Statements and calls -/

/-- **A statement on a row**, with the variables of the call that runs it:
`upsert` is given the row or none, `read` fails without a row, `update` changes
the row if there is one, and `touch` locks the row if there is one and does
nothing with it. -/
inductive RowStatement (ρ σ ε : Type)
  | upsert (run : σ → Option ρ → Except ε (σ × ρ))
  | read (absent : ε) (run : σ → ρ → Except ε (σ × ρ))
  | update (run : σ → ρ → Except ε (σ × ρ))
  | touch

namespace RowStatement

/-- What a statement does to the variables and the row it sees. -/
def run (st : RowStatement ρ σ ε) (locals : σ) (row : Option ρ) : Except ε (σ × Option ρ) :=
  match st, row with
  | .upsert f, row => (f locals row).map (fun r => (r.1, some r.2))
  | .read absent _, none => .error absent
  | .read _ f, some r => (f locals r).map (fun r => (r.1, some r.2))
  | .update _, none => .ok (locals, none)
  | .update f, some r => (f locals r).map (fun r => (r.1, some r.2))
  | .touch, row => .ok (locals, row)

/-- An upsert locks its row even before there is one. -/
def inserts : RowStatement ρ σ ε → Bool
  | .upsert _ => true
  | _ => false

/-- The statements begin with one that has the row locked when it succeeds, but
for locking reads that use nothing of what they read. -/
def Guarded : List (RowStatement ρ σ ε) → Prop
  | [] => True
  | .upsert _ :: _ => True
  | .read _ _ :: _ => True
  | .update _ :: _ => False
  | .touch :: rest => Guarded rest

end RowStatement

/-- **A call**: the key of its row, its variables at the start, and its
statements. -/
structure RowCall (κ ρ σ ε : Type) where
  key : κ
  start : σ
  statements : List (RowStatement ρ σ ε)
  guarded : RowStatement.Guarded statements

/-- Statements one after the other. -/
def runStatements (locals : σ) (row : Option ρ) :
    List (RowStatement ρ σ ε) → Except ε (σ × Option ρ)
  | [] => .ok (locals, row)
  | st :: rest => st.run locals row >>= fun r => runStatements r.1 r.2 rest

/-- **A call that runs alone** on a row. -/
def RowCall.alone (call : RowCall κ ρ σ ε) (row : Option ρ) : Except ε (σ × Option ρ) :=
  runStatements call.start row call.statements

/-- A sequence of statements in two parts. -/
theorem runStatements_append {locals : σ} {row : Option ρ}
    {statements rest : List (RowStatement ρ σ ε)} :
    runStatements locals row (statements ++ rest)
      = runStatements locals row statements >>= fun r => runStatements r.1 r.2 rest := by
  induction statements generalizing locals row with
  | nil => rfl
  | cons st statements ih =>
    show (st.run locals row >>= fun r => runStatements r.1 r.2 (statements ++ rest))
      = (st.run locals row >>= fun r => runStatements r.1 r.2 statements)
        >>= fun r => runStatements r.1 r.2 rest
    cases st.run locals row with
    | error e => rfl
    | ok r => exact ih

/-! ## The system -/

/-- **Where a transaction stands**: what is left of its call, its variables, and
the row as it sees it, once it holds the lock. -/
inductive RowTx (γ ρ σ ε : Type)
  | idle
  | running (call : γ) (rest : List (RowStatement ρ σ ε)) (locals : σ) (seen : Option (Option ρ))

/-- **What is heard of a call**: it was committed, or it failed. -/
inductive RowEvent (γ σ ε : Type)
  | committed (call : γ) (locals : σ)
  | failed (call : γ) (error : ε)
  deriving DecidableEq

/-- The call an event is about. -/
def RowEvent.call : RowEvent γ σ ε → γ
  | .committed call _ => call
  | .failed call _ => call

/-- **The committed rows, the locks, the transactions, and what was heard so
far.** -/
structure RowSystem (κ ρ σ ε γ : Type) where
  rows : κ → Option ρ
  locks : RowLocks κ
  txs : ℕ → RowTx γ ρ σ ε
  history : List (RowEvent γ σ ε)

/-- **The actions**: a transaction begins, runs its next statement, commits, or
is lost. -/
inductive RowAction (γ : Type)
  | begin (t : ℕ) (call : γ)
  | statement (t : ℕ)
  | commit (t : ℕ)
  | crash (t : ℕ)
  deriving DecidableEq

section System

variable [DecidableEq κ] (calls : γ → RowCall κ ρ σ ε)

namespace RowSystem

/-- The transaction goes on at `x`. -/
def setTx (s : RowSystem κ ρ σ ε γ) (t : ℕ) (x : RowTx γ ρ σ ε) : RowSystem κ ρ σ ε γ :=
  { s with txs := Function.update s.txs t x }

/-- The transaction is over, and its locks are free. -/
def finish (s : RowSystem κ ρ σ ε γ) (t : ℕ) : RowSystem κ ρ σ ε γ :=
  { s with locks := s.locks.release t, txs := Function.update s.txs t .idle }

/-- An event is heard. -/
def hear (s : RowSystem κ ρ σ ε γ) (e : RowEvent γ σ ε) : RowSystem κ ρ σ ε γ :=
  { s with history := s.history ++ [e] }

/-- A statement that has the lock runs. -/
def runLocked (s : RowSystem κ ρ σ ε γ) (t : ℕ) (call : γ) (st : RowStatement ρ σ ε)
    (rest : List (RowStatement ρ σ ε)) (locals : σ) (row : Option ρ) : RowSystem κ ρ σ ε γ :=
  match st.run locals row with
  | .error e => (s.finish t).hear (.failed call e)
  | .ok (locals', row') =>
    { s with
      locks := s.locks.acquire t (calls call).key
      txs := Function.update s.txs t (.running call rest locals' (some row')) }

/-- A statement that needs a row and finds none runs without a lock. -/
def runAbsent (s : RowSystem κ ρ σ ε γ) (t : ℕ) (call : γ) (st : RowStatement ρ σ ε)
    (rest : List (RowStatement ρ σ ε)) (locals : σ) : RowSystem κ ρ σ ε γ :=
  match st.run locals none with
  | .error e => (s.finish t).hear (.failed call e)
  | .ok (locals', _) => s.setTx t (.running call rest locals' none)

/-- **One step.** A statement that has to wait is refused. -/
def step (s : RowSystem κ ρ σ ε γ) : RowAction γ → Option (RowSystem κ ρ σ ε γ)
  | .begin t call =>
    match s.txs t with
    | .idle => some (s.setTx t (.running call (calls call).statements (calls call).start none))
    | _ => none
  | .statement t =>
    match s.txs t with
    | .running call (st :: rest) locals (some row) =>
      some (s.runLocked calls t call st rest locals row)
    | .running call (st :: rest) locals none =>
      let row := s.rows (calls call).key
      if st.inserts || row.isSome then
        if s.locks.isFree t (calls call).key then some (s.runLocked calls t call st rest locals row)
        else none
      else some (s.runAbsent t call st rest locals)
    | _ => none
  | .commit t =>
    match s.txs t with
    | .running call [] locals seen =>
      some (RowSystem.hear { s.finish t with
        rows := match seen with
          | none => s.rows
          | some row => Function.update s.rows (calls call).key row } (.committed call locals))
    | _ => none
  | .crash t =>
    match s.txs t with
    | .running _ _ _ _ => some (s.finish t)
    | _ => none

/-- Nothing runs, and nothing was heard. -/
structure Initial (s : RowSystem κ ρ σ ε γ) : Prop where
  unlocked : ∀ k, s.locks k = none
  idle : ∀ t, s.txs t = .idle
  unheard : s.history = []

end RowSystem

/-! ## Serial histories -/

/-- **A serial history**: each call, in the order in which the ends of the calls
are heard, does alone on the committed row what was heard of it. -/
inductive SerialHistory (calls : γ → RowCall κ ρ σ ε) (start : κ → Option ρ) :
    List (RowEvent γ σ ε) → (κ → Option ρ) → Prop
  | nil : SerialHistory calls start [] start
  | committed {history : List (RowEvent γ σ ε)} {rows : κ → Option ρ} {call : γ} {locals : σ}
      {row : Option ρ} (h : SerialHistory calls start history rows)
      (halone : (calls call).alone (rows (calls call).key) = .ok (locals, row)) :
      SerialHistory calls start (history ++ [.committed call locals])
        (Function.update rows (calls call).key row)
  | failed {history : List (RowEvent γ σ ε)} {rows : κ → Option ρ} {call : γ} {e : ε}
      (h : SerialHistory calls start history rows)
      (halone : (calls call).alone (rows (calls call).key) = .error e) :
      SerialHistory calls start (history ++ [.failed call e]) rows

/-- **Where a transaction can stand**, given the committed rows: one that holds
its lock has run the first statements of its call on the committed row; one that
does not has only touched its row. -/
def RowTx.Sound (rows : κ → Option ρ) (locks : RowLocks κ) (t : ℕ) : RowTx γ ρ σ ε → Prop
  | .idle => True
  | .running call rest locals (some row) =>
    locks (calls call).key = some t ∧ ∃ ran, (calls call).statements = ran ++ rest
      ∧ runStatements (calls call).start (rows (calls call).key) ran = .ok (locals, row)
  | .running call rest locals none =>
    locals = (calls call).start ∧ RowStatement.Guarded rest
      ∧ ∃ ran, (calls call).statements = ran ++ rest ∧ ∀ st ∈ ran, st = .touch

/-- **The invariant.** -/
structure RowInv (start : κ → Option ρ) (s : RowSystem κ ρ σ ε γ) : Prop where
  serial : SerialHistory calls start s.history s.rows
  sound : ∀ t, (s.txs t).Sound calls s.rows s.locks t

variable {calls}

/-- Touching a row does nothing. -/
theorem runStatements_touch {ran rest : List (RowStatement ρ σ ε)} (h : ∀ st ∈ ran, st = .touch)
    (locals : σ) (row : Option ρ) :
    runStatements locals row (ran ++ rest) = runStatements locals row rest := by
  induction ran with
  | nil => rfl
  | cons st ran ih =>
    obtain rfl := h st List.mem_cons_self
    exact ih (fun st' hst' => h st' (List.mem_cons_of_mem _ hst'))

omit [DecidableEq κ] in
/-- A call alone, from where its first statements have led. -/
theorem RowCall.alone_eq {call : RowCall κ ρ σ ε} {ran rest : List (RowStatement ρ σ ε)}
    {row row' : Option ρ} {locals : σ} (hsplit : call.statements = ran ++ rest)
    (hran : runStatements call.start row ran = .ok (locals, row')) :
    call.alone row = runStatements locals row' rest := by
  unfold alone
  rw [hsplit, runStatements_append, hran]
  rfl

section Step

variable {start : κ → Option ρ} {s s' : RowSystem κ ρ σ ε γ}

omit [DecidableEq κ] in
/-- The others do not see a transaction end. -/
theorem RowTx.Sound.release {t t' : ℕ} {x : RowTx γ ρ σ ε} {rows : κ → Option ρ}
    {locks : RowLocks κ} (h : x.Sound calls rows locks t') (hne : t' ≠ t) :
    x.Sound calls rows (locks.release t) t' := by
  cases x with
  | idle => trivial
  | running call rest locals seen =>
    cases seen with
    | none => exact h
    | some row => exact ⟨RowLocks.held_of_release hne h.1, h.2⟩

/-- Nor do they see it take a lock that is free. -/
theorem RowTx.Sound.acquire {t t' : ℕ} {x : RowTx γ ρ σ ε} {rows : κ → Option ρ}
    {locks : RowLocks κ} {k : κ} (h : x.Sound calls rows locks t')
    (hfree : locks.isFree t k = true) : x.Sound calls rows (locks.acquire t k) t' := by
  cases x with
  | idle => trivial
  | running call rest locals seen =>
    cases seen with
    | none => exact h
    | some row => exact ⟨RowLocks.held_of_acquire hfree h.1, h.2⟩

/-- Nor do they see it write the row it has locked. -/
theorem RowTx.Sound.write {t t' : ℕ} {x : RowTx γ ρ σ ε} {rows : κ → Option ρ}
    {locks : RowLocks κ} {k : κ} {row : Option ρ} (h : x.Sound calls rows locks t')
    (hlock : locks k = some t) (hne : t' ≠ t) :
    x.Sound calls (Function.update rows k row) locks t' := by
  cases x with
  | idle => trivial
  | running call rest locals seen =>
    cases seen with
    | none => exact h
    | some row' =>
      have hk : (calls call).key ≠ k := by
        intro hk
        rw [← hk, h.1] at hlock
        exact hne (Option.some.inj hlock)
      refine ⟨h.1, ?_⟩
      rw [Function.update_of_ne hk]
      exact h.2

/-- **A call that ends without a trace** leaves the invariant. -/
theorem RowInv.finish (h : RowInv calls start s) (t : ℕ) : RowInv calls start (s.finish t) := by
  refine ⟨h.serial, fun t' => ?_⟩
  show (Function.update s.txs t .idle t').Sound calls s.rows (s.locks.release t) t'
  by_cases ht : t' = t
  · rw [ht, Function.update_self]
    trivial
  · rw [Function.update_of_ne ht]
    exact (h.sound t').release ht

/-- A call that fails fails alone as well. -/
theorem RowInv.fail (h : RowInv calls start s) (t : ℕ) {call : γ} {e : ε}
    (halone : (calls call).alone (s.rows (calls call).key) = .error e) :
    RowInv calls start ((s.finish t).hear (.failed call e)) :=
  ⟨.failed (h.finish t).serial halone, (h.finish t).sound⟩

/-- A transaction goes on, under the locks it has. -/
theorem RowInv.goto (h : RowInv calls start s) {t : ℕ} {x : RowTx γ ρ σ ε}
    (hx : x.Sound calls s.rows s.locks t) : RowInv calls start (s.setTx t x) := by
  refine ⟨h.serial, fun t' => ?_⟩
  show (Function.update s.txs t x t').Sound calls s.rows s.locks t'
  by_cases ht : t' = t
  · rw [ht, Function.update_self]
    exact hx
  · rw [Function.update_of_ne ht]
    exact h.sound t'

/-- **A statement under its lock** keeps the invariant. -/
theorem RowInv.runLocked (h : RowInv calls start s) {t : ℕ} {call : γ} {st : RowStatement ρ σ ε}
    {ran rest : List (RowStatement ρ σ ε)} {locals : σ} {row : Option ρ}
    (hfree : s.locks.isFree t (calls call).key = true)
    (hsplit : (calls call).statements = ran ++ st :: rest)
    (hran : runStatements (calls call).start (s.rows (calls call).key) ran = .ok (locals, row)) :
    RowInv calls start (s.runLocked calls t call st rest locals row) := by
  unfold RowSystem.runLocked
  cases hst : st.run locals row with
  | error e =>
    refine h.fail t ?_
    rw [RowCall.alone_eq hsplit hran]
    show (st.run locals row >>= _) = _
    rw [hst]
    rfl
  | ok r =>
    obtain ⟨locals', row'⟩ := r
    refine ⟨h.serial, fun t' => ?_⟩
    show (Function.update s.txs t (.running call rest locals' (some row')) t').Sound calls s.rows
      (s.locks.acquire t (calls call).key) t'
    by_cases ht : t' = t
    · rw [ht, Function.update_self]
      refine ⟨RowLocks.acquire_self _ _ _, ran ++ [st], by rw [hsplit, List.append_assoc]; rfl, ?_⟩
      rw [runStatements_append, hran]
      show (st.run locals row >>= _) = _
      rw [hst]
      rfl
    · rw [Function.update_of_ne ht]
      exact (h.sound t').acquire hfree

omit [DecidableEq κ] in
/-- A lock one holds is free for oneself. -/
theorem RowLocks.isFree_of_held {locks : RowLocks κ} {t : ℕ} {k : κ} (h : locks k = some t) :
    locks.isFree t k = true := by
  unfold isFree
  rw [h, Option.all_some, decide_eq_true_eq]

/-- **A statement that finds no row** keeps the invariant. -/
theorem RowInv.runAbsent (h : RowInv calls start s) {t : ℕ} {call : γ} {st : RowStatement ρ σ ε}
    {ran rest : List (RowStatement ρ σ ε)} (hrow : s.rows (calls call).key = none)
    (hinserts : st.inserts = false) (hguarded : RowStatement.Guarded (st :: rest))
    (hsplit : (calls call).statements = ran ++ st :: rest) (htouch : ∀ st ∈ ran, st = .touch) :
    RowInv calls start (s.runAbsent t call st rest (calls call).start) := by
  unfold RowSystem.runAbsent
  cases st with
  | upsert f => cases hinserts
  | update f => exact hguarded.elim
  | read absent f =>
    -- the row is missed, and alone it would have been missed as well
    refine h.fail t ?_
    unfold RowCall.alone
    rw [hsplit, runStatements_touch htouch, hrow]
    rfl
  | touch =>
    refine h.goto ⟨rfl, hguarded, ran ++ [.touch], by rw [hsplit, List.append_assoc]; rfl, ?_⟩
    intro st hst
    rcases List.mem_append.mp hst with hst | hst
    · exact htouch st hst
    · exact List.mem_singleton.mp hst

/-- **A commit** keeps the invariant: the call did alone what it did here. -/
theorem RowInv.commit (h : RowInv calls start s) {t : ℕ} {call : γ} {locals : σ} {row : Option ρ}
    (hlock : s.locks (calls call).key = some t)
    (halone : (calls call).alone (s.rows (calls call).key) = .ok (locals, row)) :
    RowInv calls start (RowSystem.hear { s.finish t with
      rows := Function.update s.rows (calls call).key row } (.committed call locals)) := by
  refine ⟨.committed h.serial halone, fun t' => ?_⟩
  show (Function.update s.txs t .idle t').Sound calls
    (Function.update s.rows (calls call).key row) (s.locks.release t) t'
  by_cases ht : t' = t
  · rw [ht, Function.update_self]
    trivial
  · rw [Function.update_of_ne ht]
    exact ((h.sound t').write hlock ht).release ht

/-- A commit of a call that has only touched its row. -/
theorem RowInv.commit_untouched (h : RowInv calls start s) (t : ℕ) {call : γ} {locals : σ}
    (halone : (calls call).alone (s.rows (calls call).key)
      = .ok (locals, s.rows (calls call).key)) :
    RowInv calls start ((s.finish t).hear (.committed call locals)) := by
  refine ⟨?_, (h.finish t).sound⟩
  have hserial := SerialHistory.committed h.serial halone
  rw [Function.update_eq_self] at hserial
  exact hserial

/-- **Every step keeps the invariant.** -/
theorem RowInv.step (h : RowInv calls start s) {a : RowAction γ} (hst : s.step calls a = some s') :
    RowInv calls start s' := by
  cases a with
  | begin t call =>
    simp only [RowSystem.step] at hst
    split at hst
    · obtain rfl := Option.some.inj hst
      exact h.goto ⟨rfl, (calls call).guarded, [], rfl, fun st hmem => by cases hmem⟩
    · cases hst
  | statement t =>
    have hsound := h.sound t
    simp only [RowSystem.step] at hst
    split at hst
    · -- it has the lock already
      rename_i call st rest locals row heq
      rw [heq] at hsound
      obtain ⟨hlock, ran, hsplit, hran⟩ := hsound
      obtain rfl := Option.some.inj hst
      exact h.runLocked (RowLocks.isFree_of_held hlock) hsplit hran
    · rename_i call st rest locals heq
      rw [heq] at hsound
      obtain ⟨rfl, hguarded, ran, hsplit, htouch⟩ := hsound
      have hran : runStatements (calls call).start (s.rows (calls call).key) ran
          = .ok ((calls call).start, s.rows (calls call).key) := by
        rw [← List.append_nil ran]
        exact runStatements_touch htouch (calls call).start (s.rows (calls call).key)
      split at hst
      · split at hst
        · obtain rfl := Option.some.inj hst
          exact h.runLocked ‹_› hsplit hran
        · cases hst
      · rename_i hnone
        rw [Bool.or_eq_true, not_or, Bool.not_eq_true, Option.not_isSome_iff_eq_none] at hnone
        obtain rfl := Option.some.inj hst
        exact h.runAbsent hnone.2 hnone.1 hguarded hsplit htouch
    · cases hst
  | commit t =>
    have hsound := h.sound t
    simp only [RowSystem.step] at hst
    split at hst
    · rename_i call locals seen heq
      rw [heq] at hsound
      obtain rfl := Option.some.inj hst
      cases seen with
      | none =>
        obtain ⟨rfl, -, ran, hsplit, htouch⟩ := hsound
        refine h.commit_untouched t ?_
        unfold RowCall.alone
        rw [hsplit, runStatements_touch htouch]
        rfl
      | some row =>
        obtain ⟨hlock, ran, hsplit, hran⟩ := hsound
        exact h.commit hlock (RowCall.alone_eq hsplit hran)
    · cases hst
  | crash t =>
    simp only [RowSystem.step] at hst
    split at hst
    · obtain rfl := Option.some.inj hst
      exact h.finish t
    · cases hst

/-- **Calls on one row are serial**: whatever the interleaving, what was heard
is what is heard when each call runs alone, in the order of the ends. -/
theorem serial_of_run (hinit : s.Initial) {as : List (RowAction γ)}
    (hrun : runSteps (RowSystem.step calls) s as = some s') :
    SerialHistory calls s.rows s'.history s'.rows := by
  have hs : RowInv calls s.rows s := by
    refine ⟨?_, fun t => ?_⟩
    · rw [hinit.unheard]
      exact .nil
    · rw [hinit.idle t]
      trivial
  have hinv : RowInv calls s.rows s' :=
    inv_of_run (P := fun _ _ => True) (fun _ _ _ hI _ hst => hI.step hst) hs
      (stepsMeet_of_forall (fun _ _ => trivial) _ _) hrun
  exact hinv.serial

end Step

/-- **A call that fails leaves the rows as they are.** -/
theorem rows_of_failed {s s' : RowSystem κ ρ σ ε γ} {a : RowAction γ} {call : γ} {e : ε}
    (hst : s.step calls a = some s') (hheard : s'.history = s.history ++ [.failed call e]) :
    s'.rows = s.rows := by
  cases a with
  | begin t call =>
    simp only [RowSystem.step] at hst
    split at hst
    · rw [← Option.some.inj hst]
      rfl
    · cases hst
  | statement t =>
    simp only [RowSystem.step, RowSystem.runLocked, RowSystem.runAbsent] at hst
    split at hst
    · rw [← Option.some.inj hst]
      split <;> rfl
    · split_ifs at hst
      · rw [← Option.some.inj hst]
        split <;> rfl
      · rw [← Option.some.inj hst]
        split <;> rfl
    · cases hst
  | commit t =>
    simp only [RowSystem.step] at hst
    split at hst
    · rw [← Option.some.inj hst] at hheard
      cases List.append_cancel_left hheard
    · cases hst
  | crash t =>
    simp only [RowSystem.step] at hst
    split at hst
    · rw [← Option.some.inj hst]
      rfl
    · cases hst

/-! ## Parts of a history -/

section Parts

variable {start rows : κ → Option ρ}

/-- **A history in two parts**: the second starts where the first has ended. -/
theorem SerialHistory.split {before after : List (RowEvent γ σ ε)}
    (h : SerialHistory calls start (before ++ after) rows) :
    ∃ mid, SerialHistory calls start before mid ∧ SerialHistory calls mid after rows := by
  induction after using List.reverseRecOn generalizing rows with
  | nil =>
    rw [List.append_nil] at h
    exact ⟨rows, h, .nil⟩
  | append_singleton after e ih =>
    rw [← List.append_assoc] at h
    generalize hall : before ++ after ++ [e] = all at h
    cases h with
    | nil => simp at hall
    | committed h halone =>
      obtain ⟨hinit, hlast⟩ := List.append_inj' hall rfl
      rw [← hinit] at h
      obtain ⟨mid, hmid, hrest⟩ := ih h
      rw [hlast]
      exact ⟨mid, hmid, .committed hrest halone⟩
    | failed h halone =>
      obtain ⟨hinit, hlast⟩ := List.append_inj' hall rfl
      rw [← hinit] at h
      obtain ⟨mid, hmid, hrest⟩ := ih h
      rw [hlast]
      exact ⟨mid, hmid, .failed hrest halone⟩

/-- The call of a failure inside a history failed on the rows of that moment. -/
theorem SerialHistory.of_failed {before after : List (RowEvent γ σ ε)} {call : γ} {e : ε}
    (h : SerialHistory calls start (before ++ .failed call e :: after) rows) :
    ∃ mid, SerialHistory calls start before mid
      ∧ (calls call).alone (mid (calls call).key) = .error e
      ∧ SerialHistory calls mid after rows := by
  rw [List.append_cons] at h
  obtain ⟨mid, hbefore, hafter⟩ := h.split
  generalize hall : before ++ [RowEvent.failed call e] = all at hbefore
  cases hbefore with
  | nil => simp at hall
  | committed h halone => cases (List.append_inj' hall rfl).2
  | failed h halone =>
    obtain ⟨rfl, hlast⟩ := List.append_inj' hall rfl
    obtain ⟨rfl, rfl⟩ := RowEvent.failed.inj (List.singleton_inj.mp hlast)
    exact ⟨mid, h, halone, hafter⟩

end Parts

/-! ## Calls on other rows -/

/-- What is left of a table of keys when only `k` is looked at. -/
def keepKey {α : Type} (k : κ) (f : κ → Option α) : κ → Option α :=
  fun k' => if k' = k then f k' else none

/-- What is left of a transaction when only the calls on `k` are looked at. -/
def RowTx.restrict (calls : γ → RowCall κ ρ σ ε) (k : κ) : RowTx γ ρ σ ε → RowTx γ ρ σ ε
  | .idle => .idle
  | .running call rest locals seen =>
    if (calls call).key = k then .running call rest locals seen else .idle

/-- **The part of the system on the row `k`**: as if there were no other row,
and no call on another row had ever been made. -/
def RowSystem.restrict (calls : γ → RowCall κ ρ σ ε) (k : κ) (s : RowSystem κ ρ σ ε γ) :
    RowSystem κ ρ σ ε γ where
  rows := keepKey k s.rows
  locks := keepKey k s.locks
  txs := fun t => (s.txs t).restrict calls k
  history := s.history.filter (fun e => decide ((calls e.call).key = k))

/-- The transaction runs a call on `k`. -/
def RowTx.On (calls : γ → RowCall κ ρ σ ε) (k : κ) : RowTx γ ρ σ ε → Prop
  | .idle => False
  | .running call _ _ _ => (calls call).key = k

@[inherit_doc RowTx.On]
def RowSystem.RunsOn (calls : γ → RowCall κ ρ σ ε) (k : κ) (s : RowSystem κ ρ σ ε γ) (t : ℕ) :
    Prop :=
  (s.txs t).On calls k

/-- A lock is held by a transaction that runs a call on its row. -/
def RowSystem.LocksHeld (calls : γ → RowCall κ ρ σ ε) (s : RowSystem κ ρ σ ε γ) : Prop :=
  ∀ k t, s.locks k = some t → s.RunsOn calls k t

section Restrict

variable {α : Type} {k k' : κ} {t : ℕ} {call : γ} {st : RowStatement ρ σ ε}
  {rest : List (RowStatement ρ σ ε)} {locals : σ} {seen : Option (Option ρ)} {row : Option ρ}
  {s s' : RowSystem κ ρ σ ε γ}

@[simp] theorem keepKey_self (f : κ → Option α) : keepKey k f k = f k :=
  if_pos rfl

theorem keepKey_update_self (f : κ → Option α) (v : Option α) :
    keepKey k (Function.update f k v) = Function.update (keepKey k f) k v := by
  funext k'
  unfold keepKey
  by_cases hk : k' = k
  · rw [hk, if_pos rfl, Function.update_self, Function.update_self]
  · rw [if_neg hk, Function.update_of_ne hk, if_neg hk]

theorem keepKey_update_of_ne (f : κ → Option α) (v : Option α) (hne : k' ≠ k) :
    keepKey k (Function.update f k' v) = keepKey k f := by
  funext k''
  unfold keepKey
  by_cases hk : k'' = k
  · rw [if_pos hk, if_pos hk, hk, Function.update_of_ne (Ne.symm hne)]
  · rw [if_neg hk, if_neg hk]

theorem keepKey_release (locks : RowLocks κ) :
    keepKey k (locks.release t) = RowLocks.release (keepKey k locks) t := by
  funext k'
  unfold keepKey RowLocks.release
  by_cases hk : k' = k
  · simp only [if_pos hk]
  · simp only [if_neg hk, reduceCtorEq, if_false]

/-- A transaction that does not have the lock gives nothing back. -/
theorem keepKey_release_of_ne {locks : RowLocks κ} (h : locks k ≠ some t) :
    keepKey k (locks.release t) = keepKey k locks := by
  funext k'
  unfold keepKey RowLocks.release
  by_cases hk : k' = k
  · rw [if_pos hk, if_pos hk, hk, if_neg h]
  · rw [if_neg hk, if_neg hk]

theorem restrict_update (txs : ℕ → RowTx γ ρ σ ε) (x : RowTx γ ρ σ ε) :
    (fun t' => (Function.update txs t x t').restrict calls k)
      = Function.update (fun t' => (txs t').restrict calls k) t (x.restrict calls k) := by
  funext t'
  by_cases ht : t' = t
  · rw [ht, Function.update_self, Function.update_self]
  · rw [Function.update_of_ne ht, Function.update_of_ne ht]

/-- What a transaction on another row does is not seen. -/
theorem restrict_update_of_idle {txs : ℕ → RowTx γ ρ σ ε} {x : RowTx γ ρ σ ε}
    (hold : (txs t).restrict calls k = .idle) (hnew : x.restrict calls k = .idle) :
    (fun t' => (Function.update txs t x t').restrict calls k)
      = fun t' => (txs t').restrict calls k := by
  rw [restrict_update, hnew, ← hold, Function.update_eq_self]

theorem RowTx.restrict_self (h : (calls call).key = k) :
    (RowTx.running call rest locals seen).restrict calls k = .running call rest locals seen :=
  if_pos h

theorem RowTx.restrict_of_ne (h : (calls call).key ≠ k) :
    (RowTx.running call rest locals seen).restrict calls k = .idle :=
  if_neg h

omit [DecidableEq κ] in
theorem RowSystem.runsOn_running (h : s.txs t = .running call rest locals seen) :
    s.RunsOn calls k t ↔ (calls call).key = k := by
  unfold RunsOn
  rw [h]
  rfl

namespace RowSystem

theorem restrict_setTx (x : RowTx γ ρ σ ε) :
    (s.setTx t x).restrict calls k = (s.restrict calls k).setTx t (x.restrict calls k) := by
  show RowSystem.mk _ _ (fun t' => (Function.update s.txs t x t').restrict calls k) _ = _
  rw [restrict_update]
  rfl

theorem restrict_finish : (s.finish t).restrict calls k = (s.restrict calls k).finish t := by
  show RowSystem.mk _ (keepKey k (s.locks.release t))
    (fun t' => (Function.update s.txs t .idle t').restrict calls k) _ = _
  rw [restrict_update, keepKey_release]
  rfl

theorem restrict_hear (e : RowEvent γ σ ε) (h : (calls e.call).key = k) :
    (s.hear e).restrict calls k = (s.restrict calls k).hear e := by
  show RowSystem.mk _ _ _ ((s.history ++ [e]).filter _) = _
  rw [List.filter_append, List.filter_cons_of_pos (by simpa using h)]
  rfl

theorem restrict_hear_of_ne (e : RowEvent γ σ ε) (h : (calls e.call).key ≠ k) :
    (s.hear e).restrict calls k = s.restrict calls k := by
  show RowSystem.mk _ _ _ ((s.history ++ [e]).filter _) = _
  rw [List.filter_append, List.filter_cons_of_neg (by simpa using h), List.filter_nil,
    List.append_nil]
  rfl

omit [DecidableEq κ] in
/-- A transaction on another row does not have the lock of this one. -/
theorem LocksHeld.ne_some (h : s.LocksHeld calls) (htx : s.txs t = .running call rest locals seen)
    (hne : (calls call).key ≠ k) : s.locks k ≠ some t :=
  fun hlock => hne ((runsOn_running htx).mp (h k t hlock))

/-- The end of a transaction on another row is not seen. -/
theorem restrict_finish_of_ne (h : s.LocksHeld calls)
    (htx : s.txs t = .running call rest locals seen) (hne : (calls call).key ≠ k) :
    (s.finish t).restrict calls k = s.restrict calls k := by
  show RowSystem.mk _ (keepKey k (s.locks.release t))
    (fun t' => (Function.update s.txs t .idle t').restrict calls k) _ = _
  rw [restrict_update_of_idle (by rw [htx, RowTx.restrict_of_ne hne]) rfl,
    keepKey_release_of_ne (h.ne_some htx hne)]
  rfl

/-- A statement under its lock, on this row. -/
theorem restrict_runLocked (hkey : (calls call).key = k) :
    (s.runLocked calls t call st rest locals row).restrict calls k
      = (s.restrict calls k).runLocked calls t call st rest locals row := by
  unfold runLocked
  cases st.run locals row with
  | error e =>
    show ((s.finish t).hear (.failed call e)).restrict calls k = _
    rw [restrict_hear _ hkey, restrict_finish]
  | ok r =>
    show RowSystem.mk _ (keepKey k (s.locks.acquire t (calls call).key))
      (fun t' => (Function.update s.txs t (.running call rest r.1 (some r.2)) t').restrict calls k)
      _ = _
    rw [restrict_update, RowTx.restrict_self hkey, hkey, RowLocks.acquire, keepKey_update_self]
    rfl

/-- A statement under its lock, on another row. -/
theorem restrict_runLocked_of_ne (h : s.LocksHeld calls)
    {rest' : List (RowStatement ρ σ ε)} {locals' : σ}
    (htx : s.txs t = .running call rest' locals' seen) (hne : (calls call).key ≠ k) :
    (s.runLocked calls t call st rest locals row).restrict calls k = s.restrict calls k := by
  unfold runLocked
  cases st.run locals row with
  | error e =>
    show ((s.finish t).hear (.failed call e)).restrict calls k = _
    rw [restrict_hear_of_ne _ hne, restrict_finish_of_ne h htx hne]
  | ok r =>
    show RowSystem.mk _ (keepKey k (s.locks.acquire t (calls call).key))
      (fun t' => (Function.update s.txs t (.running call rest r.1 (some r.2)) t').restrict calls k)
      _ = _
    rw [restrict_update_of_idle (by rw [htx, RowTx.restrict_of_ne hne]) (RowTx.restrict_of_ne hne),
      RowLocks.acquire, keepKey_update_of_ne _ _ hne]
    rfl

/-- A statement that finds no row, on this key. -/
theorem restrict_runAbsent (hkey : (calls call).key = k) :
    (s.runAbsent t call st rest locals).restrict calls k
      = (s.restrict calls k).runAbsent t call st rest locals := by
  unfold runAbsent
  cases st.run locals none with
  | error e =>
    show ((s.finish t).hear (.failed call e)).restrict calls k = _
    rw [restrict_hear _ hkey, restrict_finish]
  | ok r =>
    show (s.setTx t (.running call rest r.1 none)).restrict calls k = _
    rw [restrict_setTx, RowTx.restrict_self hkey]

/-- A statement that finds no row, on another key. -/
theorem restrict_runAbsent_of_ne (h : s.LocksHeld calls)
    {rest' : List (RowStatement ρ σ ε)} {locals' : σ}
    (htx : s.txs t = .running call rest' locals' seen) (hne : (calls call).key ≠ k) :
    (s.runAbsent t call st rest locals).restrict calls k = s.restrict calls k := by
  unfold runAbsent
  cases st.run locals none with
  | error e =>
    show ((s.finish t).hear (.failed call e)).restrict calls k = _
    rw [restrict_hear_of_ne _ hne, restrict_finish_of_ne h htx hne]
  | ok r =>
    show RowSystem.mk _ _ (fun t' => (Function.update s.txs t (.running call rest r.1 none)
      t').restrict calls k) _ = _
    rw [restrict_update_of_idle (by rw [htx, RowTx.restrict_of_ne hne]) (RowTx.restrict_of_ne hne)]
    rfl

/-- The actions of a transaction that has begun. -/
inductive RowMove
  | statement
  | commit
  | crash

/-- The action. -/
def RowMove.action (t : ℕ) : RowMove → RowAction γ
  | .statement => .statement t
  | .commit => .commit t
  | .crash => .crash t

/-- **A call moves on this row as it would if there were no others**: it is
refused when it would be refused, and goes where it would go. -/
theorem step_restrict (hon : s.RunsOn calls k t) (move : RowMove) :
    (s.restrict calls k).step calls (move.action t)
      = (s.step calls (move.action t)).map (restrict calls k) := by
  cases htx : s.txs t with
  | idle =>
    unfold RunsOn at hon
    rw [htx] at hon
    exact hon.elim
  | running call rest locals seen =>
    have hkey : (calls call).key = k := (runsOn_running htx).mp hon
    have htx' : (s.restrict calls k).txs t = .running call rest locals seen := by
      show (s.txs t).restrict calls k = _
      rw [htx, RowTx.restrict_self hkey]
    have hrow : (s.restrict calls k).rows (calls call).key = s.rows (calls call).key := by
      rw [hkey]
      exact keepKey_self s.rows
    have hfree : (s.restrict calls k).locks.isFree t (calls call).key
        = s.locks.isFree t (calls call).key := by
      unfold RowLocks.isFree
      rw [hkey]
      exact congrArg (Option.all _) (keepKey_self s.locks)
    cases move with
    | statement =>
      simp only [RowMove.action, step, htx, htx']
      match rest, seen with
      | [], _ => rfl
      | st :: rest, some row => exact congrArg some (restrict_runLocked hkey).symm
      | st :: rest, none =>
        simp only [hrow, hfree]
        split_ifs
        · exact congrArg some (restrict_runLocked hkey).symm
        · rfl
        · exact congrArg some (restrict_runAbsent hkey).symm
    | commit =>
      simp only [RowMove.action, step, htx, htx']
      match rest, seen with
      | _ :: _, _ => rfl
      | [], none =>
        refine congrArg some ?_
        show _ = ((s.finish t).hear (.committed call locals)).restrict calls k
        rw [restrict_hear _ hkey, restrict_finish]
        rfl
      | [], some row =>
        refine congrArg some ?_
        show _ = (hear { s.finish t with rows := _ } (.committed call locals)).restrict calls k
        rw [restrict_hear _ hkey]
        show _ = hear (RowSystem.mk (keepKey k (Function.update s.rows (calls call).key row))
          ((s.finish t).restrict calls k).locks ((s.finish t).restrict calls k).txs _) _
        rw [hkey, keepKey_update_self, restrict_finish]
        rfl
    | crash =>
      simp only [RowMove.action, step, htx, htx', Option.map_some, restrict_finish]

/-- **A call on another row** does nothing that is seen on this one. -/
theorem restrict_step_of_not (h : s.LocksHeld calls) (hoff : ¬ s.RunsOn calls k t) (move : RowMove)
    (hst : s.step calls (move.action t) = some s') :
    s'.restrict calls k = s.restrict calls k := by
  cases htx : s.txs t with
  | idle => cases move <;> simp [RowMove.action, step, htx] at hst
  | running call rest locals seen =>
    have hne : (calls call).key ≠ k := fun hkey => hoff ((runsOn_running htx).mpr hkey)
    cases move with
    | statement =>
      simp only [RowMove.action, step, htx] at hst
      match rest, seen with
      | [], _ => cases hst
      | st :: rest, some row =>
        rw [← Option.some.inj hst]
        exact restrict_runLocked_of_ne h htx hne
      | st :: rest, none =>
        simp only at hst
        split_ifs at hst
        · rw [← Option.some.inj hst]
          exact restrict_runLocked_of_ne h htx hne
        · rw [← Option.some.inj hst]
          exact restrict_runAbsent_of_ne h htx hne
    | commit =>
      simp only [RowMove.action, step, htx] at hst
      match rest, seen with
      | _ :: _, _ => cases hst
      | [], none =>
        rw [← Option.some.inj hst]
        show ((s.finish t).hear (.committed call locals)).restrict calls k = _
        rw [restrict_hear_of_ne _ hne, restrict_finish_of_ne h htx hne]
      | [], some row =>
        rw [← Option.some.inj hst]
        show (hear { s.finish t with rows := _ } (.committed call locals)).restrict calls k = _
        rw [restrict_hear_of_ne _ hne]
        show RowSystem.mk (keepKey k (Function.update s.rows (calls call).key row))
          ((s.finish t).restrict calls k).locks ((s.finish t).restrict calls k).txs _ = _
        rw [keepKey_update_of_ne _ _ hne, restrict_finish_of_ne h htx hne]
        rfl
    | crash =>
      simp only [RowMove.action, step, htx] at hst
      rw [← Option.some.inj hst]
      exact restrict_finish_of_ne h htx hne

/-- A call that begins is seen to begin if it is one on this row. -/
theorem restrict_begin (hst : s.step calls (.begin t call) = some s') :
    if (calls call).key = k then
      (s.restrict calls k).step calls (.begin t call) = some (s'.restrict calls k)
    else s'.restrict calls k = s.restrict calls k := by
  simp only [step] at hst
  split at hst
  · rename_i htx
    rw [← Option.some.inj hst]
    have htx' : (s.restrict calls k).txs t = .idle := by
      show (s.txs t).restrict calls k = _
      rw [htx]
      rfl
    split
    · rename_i hkey
      simp only [step, htx', restrict_setTx, RowTx.restrict_self hkey]
    · rename_i hne
      rw [restrict_setTx, RowTx.restrict_of_ne hne, ← htx']
      unfold setTx
      rw [Function.update_eq_self]
  · cases hst

omit [DecidableEq κ] in
/-- Locks stay with the calls on their rows: at the end of a call. -/
theorem LocksHeld.finish (h : s.LocksHeld calls) (t : ℕ) : (s.finish t).LocksHeld calls := by
  intro k t' hlock
  replace hlock : s.locks.release t k = some t' := hlock
  unfold RowLocks.release at hlock
  split_ifs at hlock with hself
  have ht : t' ≠ t := fun ht => hself (ht ▸ hlock)
  show (Function.update s.txs t .idle t').On calls k
  rw [Function.update_of_ne ht]
  exact h k t' hlock

omit [DecidableEq κ] in
/-- When a call goes on. -/
theorem LocksHeld.goto (h : s.LocksHeld calls) {x : RowTx γ ρ σ ε}
    (hx : ∀ k, (s.txs t).On calls k → x.On calls k) : (s.setTx t x).LocksHeld calls := by
  intro k t' hlock
  have hold := h k t' hlock
  show (Function.update s.txs t x t').On calls k
  by_cases ht : t' = t
  · rw [ht, Function.update_self]
    exact hx k (ht ▸ hold)
  · rw [Function.update_of_ne ht]
    exact hold

/-- When a statement has run under its lock. -/
theorem LocksHeld.runLocked (h : s.LocksHeld calls) {rest' : List (RowStatement ρ σ ε)}
    {locals' : σ} (htx : s.txs t = .running call rest' locals' seen) :
    (s.runLocked calls t call st rest locals row).LocksHeld calls := by
  unfold RowSystem.runLocked
  cases st.run locals row with
  | error e => exact h.finish t
  | ok r =>
    intro k t' hlock
    show (Function.update s.txs t (.running call rest r.1 (some r.2)) t').On calls k
    replace hlock : s.locks.acquire t (calls call).key k = some t' := hlock
    unfold RowLocks.acquire at hlock
    by_cases hk : k = (calls call).key
    · rw [hk, Function.update_self] at hlock
      rw [← Option.some.inj hlock, Function.update_self, hk]
      rfl
    · rw [Function.update_of_ne hk] at hlock
      have hold := h k t' hlock
      by_cases ht : t' = t
      · exact absurd ((runsOn_running htx).mp (ht ▸ hold)).symm hk
      · rw [Function.update_of_ne ht]
        exact hold

omit [DecidableEq κ] in
/-- When a statement has found no row. -/
theorem LocksHeld.runAbsent (h : s.LocksHeld calls) {rest' : List (RowStatement ρ σ ε)}
    {locals' : σ} (htx : s.txs t = .running call rest' locals' seen) :
    (s.runAbsent t call st rest locals).LocksHeld calls := by
  unfold RowSystem.runAbsent
  cases st.run locals none with
  | error e => exact h.finish t
  | ok r => exact h.goto (fun k hk => by rw [htx] at hk; exact hk)

/-- **Locks stay with the calls on their rows.** -/
theorem LocksHeld.step (h : s.LocksHeld calls) {a : RowAction γ}
    (hst : s.step calls a = some s') : s'.LocksHeld calls := by
  cases a with
  | begin t call =>
    simp only [RowSystem.step] at hst
    split at hst
    · rename_i htx
      rw [← Option.some.inj hst]
      exact h.goto (fun k hk => by rw [htx] at hk; exact hk.elim)
    · cases hst
  | statement t =>
    simp only [RowSystem.step] at hst
    split at hst
    · rename_i htx
      rw [← Option.some.inj hst]
      exact h.runLocked htx
    · rename_i htx
      split_ifs at hst
      · rw [← Option.some.inj hst]
        exact h.runLocked htx
      · rw [← Option.some.inj hst]
        exact h.runAbsent htx
    · cases hst
  | commit t =>
    simp only [RowSystem.step] at hst
    split at hst
    · rw [← Option.some.inj hst]
      exact h.finish t
    · cases hst
  | crash t =>
    simp only [RowSystem.step] at hst
    split at hst
    · rw [← Option.some.inj hst]
      exact h.finish t
    · cases hst

/-- One step of the system is one step of its part on a row, or none. -/
theorem restrict_step (h : s.LocksHeld calls) (k : κ) {a : RowAction γ}
    (hst : s.step calls a = some s') :
    (s.restrict calls k).step calls a = some (s'.restrict calls k)
      ∨ s'.restrict calls k = s.restrict calls k := by
  have hmove : ∀ (t : ℕ) (move : RowMove), a = move.action t →
      (s.restrict calls k).step calls a = some (s'.restrict calls k)
        ∨ s'.restrict calls k = s.restrict calls k := by
    intro t move ha
    rw [ha] at hst ⊢
    by_cases hon : s.RunsOn calls k t
    · rw [step_restrict hon, hst]
      exact Or.inl rfl
    · exact Or.inr (restrict_step_of_not h hon move hst)
  cases a with
  | begin t call =>
    have hbegin := restrict_begin (k := k) hst
    split_ifs at hbegin
    · exact Or.inl hbegin
    · exact Or.inr hbegin
  | statement t => exact hmove t .statement rfl
  | commit t => exact hmove t .commit rfl
  | crash t => exact hmove t .crash rfl

end RowSystem

/-- **Calls on other rows do not matter**: leave their actions out of a run, and
what is left runs as it did. -/
theorem restrict_run (hinit : s.Initial) (k : κ) {as : List (RowAction γ)}
    (hrun : runSteps (RowSystem.step calls) s as = some s') :
    s'.LocksHeld calls ∧ ∃ as', as'.Sublist as
      ∧ runSteps (RowSystem.step calls) (s.restrict calls k) as' = some (s'.restrict calls k) := by
  have hs : s.LocksHeld calls := fun k t hlock => by
    rw [hinit.unlocked k] at hlock
    cases hlock
  clear hinit
  induction as generalizing s with
  | nil =>
    rw [← Option.some.inj hrun]
    exact ⟨hs, [], List.Sublist.refl _, rfl⟩
  | cons a as ih =>
    obtain ⟨u, hu, hrest⟩ := runSteps_cons_eq_some.mp hrun
    obtain ⟨hheld, as', hsub, hrun'⟩ := ih hrest (hs.step hu)
    rcases RowSystem.restrict_step hs k hu with hone | hsame
    · exact ⟨hheld, a :: as', hsub.cons_cons a,
        runSteps_cons_eq_some.mpr ⟨_, hone, hrun'⟩⟩
    · rw [hsame] at hrun'
      exact ⟨hheld, as', hsub.cons a, hrun'⟩

end Restrict

end System
