import Pay3.Tables

/-!
# Computations that may panic

A computation can end without a value in two ways: it returns an error, which its caller
handles, or it panics, which ends the task it runs in. A `Fault` is one or the other, so
that a panic runs through a sequence of steps like an error, and no step can catch it.

The steps that panic are few: an index out of bounds, a slice of a text that does not
begin or end at a character, an expected value that is not there. Everything else
`returns`. A computation that panics at some inputs and otherwise does as one that does
not is `PanicsOr` of it, and sequences of such computations are again.
-/

/-- How a computation ends that has no value. -/
inductive Fault (ε : Type)
  | error (e : ε)
  | panic
  deriving DecidableEq

/-- Another error in the place of an error. -/
def Fault.map {ε ε' : Type} (f : ε → ε') : Fault ε → Fault ε'
  | .error e => .error (f e)
  | .panic => .panic

namespace Panicking

variable {ε ε' α β γ : Type}

/-! ## Steps that return -/

/-- A step that does not panic. -/
def returns (x : Except ε α) : Except (Fault ε) α := x.mapError Fault.error

@[simp] theorem returns_ok (a : α) : returns (.ok a : Except ε α) = .ok a := rfl

@[simp] theorem returns_error (e : ε) : returns (.error e : Except ε α) = .error (.error e) := rfl

@[simp] theorem returns_eq_ok {x : Except ε α} {a : α} : returns x = .ok a ↔ x = .ok a := by
  cases x with
  | error e => simp
  | ok b => simp

theorem returns_ne_panic (x : Except ε α) : returns x ≠ .error .panic := by
  cases x with
  | error e => simp
  | ok b => simp

/-- Steps that return, one after the other, return. -/
theorem returns_bind (x : Except ε α) (f : α → Except ε β) :
    returns (x >>= f) = (returns x >>= fun a => returns (f a)) := by
  cases x with
  | error e => rfl
  | ok a => rfl

theorem returns_ensure_true (e : ε) : returns (ensure true e) = .ok () := rfl

theorem returns_pure (a : α) : returns (pure a : Except ε α) = pure a := rfl

theorem mapError_returns (x : Except ε α) (f : ε → ε') :
    (returns x).mapError (Fault.map f) = returns (x.mapError f) := by
  cases x with
  | error e => rfl
  | ok a => rfl

theorem map_returns (x : Except ε α) (f : α → β) : (returns x).map f = returns (x.map f) := by
  cases x with
  | error e => rfl
  | ok a => rfl

theorem ok_bind (a : α) (f : α → Except ε β) : ((.ok a : Except ε α) >>= f) = f a := rfl

/-- A sequence fails where its first part fails, or where the rest does. -/
theorem bind_eq_error {x : Except ε α} {f : α → Except ε β} {e : ε} :
    (x >>= f) = .error e ↔ x = .error e ∨ ∃ a, x = .ok a ∧ f a = .error e := by
  cases x with
  | error e' => simp [Bind.bind, Except.bind]
  | ok a => simp [Bind.bind, Except.bind]

/-- Behind a step that returns, a panic is one of the rest. -/
theorem returns_bind_eq_panic {x : Except ε α} {f : α → Except (Fault ε) β} :
    (returns x >>= f) = .error .panic ↔ ∃ a, x = .ok a ∧ f a = .error .panic := by
  rw [bind_eq_error]
  simp [returns_ne_panic]

/-- A fallible read of every row fails at the first row that fails. -/
theorem collectOk_eq_error {f : α → Except ε β} {rows : List α} {e : ε} :
    collectOk f rows = .error e ↔ ∃ before row after, rows = before ++ row :: after
      ∧ (∀ r ∈ before, ∃ b, f r = .ok b) ∧ f row = .error e := by
  induction rows with
  | nil => simp [collectOk]
  | cons r rows ih =>
    unfold collectOk
    rw [bind_eq_error]
    constructor
    · rintro (h | ⟨b, hb, h⟩)
      · exact ⟨[], r, rows, rfl, by simp, h⟩
      · rcases bind_eq_error.mp h with h | ⟨bs, -, h⟩
        · obtain ⟨before, row, after, hrows, hbefore, hrow⟩ := ih.mp h
          refine ⟨r :: before, row, after, by rw [hrows]; rfl, ?_, hrow⟩
          rintro q hq
          rcases List.mem_cons.mp hq with rfl | hq
          · exact ⟨b, hb⟩
          · exact hbefore q hq
        · cases h
    · rintro ⟨before, row, after, hrows, hbefore, hrow⟩
      cases before with
      | nil =>
        obtain ⟨rfl, -⟩ := List.cons.inj hrows
        exact Or.inl hrow
      | cons q before =>
        obtain ⟨rfl, hrest⟩ := List.cons.inj hrows
        obtain ⟨b, hb⟩ := hbefore r List.mem_cons_self
        refine Or.inr ⟨b, hb, bind_eq_error.mpr (Or.inl (ih.mpr ⟨before, row, after, hrest, ?_, hrow⟩))⟩
        exact fun p hp => hbefore p (List.mem_cons_of_mem r hp)

theorem collectOk_returns (f : α → Except ε β) (rows : List α) :
    collectOk (fun r => returns (f r)) rows = returns (collectOk f rows) := by
  induction rows with
  | nil => rfl
  | cons r rows ih =>
    unfold collectOk
    simp only [ih, returns_bind, returns_pure]

/-! ## Steps that panic -/

/-- `l[i]`. -/
def index (l : List α) (i : ℕ) : Except (Fault ε) α := orError l[i]? .panic

theorem index_cons_zero (a : α) (l : List α) : (index (a :: l) 0 : Except (Fault ε) α) = .ok a := rfl

theorem index_cons_succ (a : α) (l : List α) (i : ℕ) :
    (index (a :: l) (i + 1) : Except (Fault ε) α) = index l i := by
  rw [index, index, List.getElem?_cons_succ]

/-- `l[i] = a`. -/
def setIndex (l : List α) (i : ℕ) (a : α) : Except (Fault ε) (List α) :=
  if i < l.length then .ok (l.set i a) else .error .panic

/-- `expect`. -/
def expect (x : Option α) : Except (Fault ε) α := orError x .panic

/-- `is_char_boundary` of a text, by its bytes: a byte from 128 to 191 continues a
character. -/
def isCharBoundary (bytes : List UInt8) (i : ℕ) : Bool :=
  if i = 0 then true
  else match bytes[i]? with
    | none => decide (i = bytes.length)
    | some byte => decide (byte < 128) || decide (192 ≤ byte)

/-- `&text[..i]`. -/
def sliceTo (bytes : List UInt8) (i : ℕ) : Except (Fault ε) (List UInt8) :=
  if isCharBoundary bytes i then .ok (bytes.take i) else .error .panic

/-- `&text[i..]`. -/
def sliceFrom (bytes : List UInt8) (i : ℕ) : Except (Fault ε) (List UInt8) :=
  if isCharBoundary bytes i then .ok (bytes.drop i) else .error .panic

/-- `String::insert` of a character of one byte. -/
def insertAt (bytes : List UInt8) (i : ℕ) (byte : UInt8) : Except (Fault ε) (List UInt8) :=
  if isCharBoundary bytes i then .ok (bytes.take i ++ byte :: bytes.drop i) else .error .panic

/-- `chunks_exact(2)`. -/
def chunksExact2 : List UInt8 → List (List UInt8)
  | a :: b :: rest => [a, b] :: chunksExact2 rest
  | _ => []

/-! ## A panic, or the same -/

/-- **The computation panics where the other one fails, or does the same.** -/
def PanicsOr (x : Except (Fault ε) α) (y : Except ε α) : Prop :=
  x = returns y ∨ (x = .error .panic ∧ ∃ e, y = .error e)

theorem panicsOr_returns (y : Except ε α) : PanicsOr (returns y) y := Or.inl rfl

/-- A sequence panics or does the same when its parts do. -/
theorem PanicsOr.bind {x : Except (Fault ε) α} {y : Except ε α} {f : α → Except (Fault ε) β}
    {g : α → Except ε β} (hx : PanicsOr x y) (hf : ∀ a, y = .ok a → PanicsOr (f a) (g a)) :
    PanicsOr (x >>= f) (y >>= g) := by
  rcases hx with rfl | ⟨rfl, e, rfl⟩
  · cases y with
    | error e => exact Or.inl rfl
    | ok a => exact hf a rfl
  · exact Or.inr ⟨rfl, e, rfl⟩

/-- A read of every row panics or does the same when the read of one does. -/
theorem panicsOr_collectOk {f : α → Except (Fault ε) β} {g : α → Except ε β}
    (h : ∀ r, PanicsOr (f r) (g r)) (rows : List α) :
    PanicsOr (collectOk f rows) (collectOk g rows) := by
  induction rows with
  | nil => exact Or.inl rfl
  | cons r rows ih =>
    unfold collectOk
    exact (h r).bind (fun b _ => ih.bind (fun bs _ => Or.inl rfl))

/-- The values are the same. -/
theorem PanicsOr.eq_ok_iff {x : Except (Fault ε) α} {y : Except ε α} (h : PanicsOr x y) {a : α} :
    x = .ok a ↔ y = .ok a := by
  rcases h with rfl | ⟨rfl, e, rfl⟩
  · exact returns_eq_ok
  · simp

end Panicking
