import Mathlib.Algebra.BigOperators.Group.Finset.Piecewise
import Mathlib.Algebra.Order.BigOperators.Group.Finset
import Mathlib.Data.BitVec
import Mathlib.Data.Fintype.Basic
import Mathlib.Logic.Equiv.Defs
import Mathlib.Tactic.Abel

/-!
# Holdings in words

The holdings of finitely many accounts, each a machine word. Crediting an
account wraps around when the word is full, and so does debiting one that has
too little. Added up as words, the holdings change by what is credited and
debited whatever happens. Added up as numbers, they do so exactly when there is
room: an account that has enough is debited exactly, and a credit is exact if
all the holdings together, and it, fit a word.

So a payment that checks the payer, and no more, never loses or makes money as
long as all the money fits a word.
-/

/-- There are finitely many words. -/
instance BitVec.fintype (n : ℕ) : Fintype (BitVec n) :=
  Fintype.ofEquiv (Fin (2 ^ n)) ⟨BitVec.ofFin, BitVec.toFin, fun _ => rfl, fun _ => rfl⟩

variable {α : Type*} [DecidableEq α] {n : ℕ}

/-- The holdings after `value` came to `a`. -/
def credit (holdings : α → BitVec n) (a : α) (value : BitVec n) : α → BitVec n :=
  Function.update holdings a (holdings a + value)

/-- The holdings after `value` left `a`. -/
def debit (holdings : α → BitVec n) (a : α) (value : BitVec n) : α → BitVec n :=
  Function.update holdings a (holdings a - value)

theorem toNat_update (holdings : α → BitVec n) (a : α) (x : BitVec n) :
    (fun i => (Function.update holdings a x i).toNat)
      = Function.update (fun i => (holdings i).toNat) a x.toNat :=
  funext (fun i => Function.apply_update (fun _ => BitVec.toNat) holdings a x i)

variable [Fintype α]

omit [DecidableEq α] in
/-- An account has no more than there is. -/
theorem toNat_le_sum (holdings : α → BitVec n) (a : α) :
    (holdings a).toNat ≤ ∑ i, (holdings i).toNat :=
  Finset.single_le_sum (f := fun i => (holdings i).toNat) (fun _ _ => Nat.zero_le _)
    (Finset.mem_univ a)

/-- One summand is replaced. -/
theorem sum_update_add {M : Type*} [AddCommMonoid M] (f : α → M) (a : α) (x : M) :
    (∑ i, Function.update f a x i) + f a = (∑ i, f i) + x := by
  rw [Finset.sum_update_of_mem (Finset.mem_univ a), ← Finset.sum_sdiff (Finset.subset_univ {a}),
    Finset.sum_singleton]
  abel

/-! ## As words -/

variable (holdings : α → BitVec n) (a : α) (value : BitVec n)

theorem sum_credit : ∑ i, credit holdings a value i = (∑ i, holdings i) + value := by
  have hsum := sum_update_add holdings a (holdings a + value)
  refine add_right_cancel (b := holdings a) ?_
  rw [show ∑ i, credit holdings a value i + holdings a
    = (∑ i, holdings i) + (holdings a + value) from hsum]
  abel

theorem sum_debit : (∑ i, debit holdings a value i) + value = ∑ i, holdings i := by
  have hsum := sum_update_add holdings a (holdings a - value)
  refine add_right_cancel (b := holdings a) ?_
  rw [add_right_comm, show ∑ i, debit holdings a value i + holdings a
    = (∑ i, holdings i) + (holdings a - value) from hsum]
  abel

/-! ## As numbers -/

variable {holdings a value}

/-- **A credit is exact** if everything fits a word afterwards. -/
theorem toNat_sum_credit (h : (∑ i, (holdings i).toNat) + value.toNat < 2 ^ n) :
    ∑ i, (credit holdings a value i).toNat = (∑ i, (holdings i).toNat) + value.toNat := by
  have hle := toNat_le_sum holdings a
  have hsum := sum_update_add (fun i => (holdings i).toNat) a (holdings a + value).toNat
  have hexact : (holdings a + value).toNat = (holdings a).toNat + value.toNat := by
    rw [BitVec.toNat_add]
    exact Nat.mod_eq_of_lt (by omega)
  rw [← toNat_update, hexact] at hsum
  unfold credit
  dsimp only at hsum
  omega

/-- **A debit is exact** if the account has as much. -/
theorem toNat_sum_debit (h : value ≤ holdings a) :
    (∑ i, (debit holdings a value i).toNat) + value.toNat = ∑ i, (holdings i).toNat := by
  have hle := toNat_le_sum holdings a
  have hsum := sum_update_add (fun i => (holdings i).toNat) a (holdings a - value).toNat
  rw [← toNat_update, BitVec.toNat_sub_of_le h] at hsum
  have hvalue : value.toNat ≤ (holdings a).toNat := h
  unfold debit
  dsimp only at hsum
  omega

/-- **A payment of what the payer has** moves it, if everything fits a word. -/
theorem toNat_sum_pay {b : α} (h : value ≤ holdings a)
    (hfits : ∑ i, (holdings i).toNat < 2 ^ n) :
    ∑ i, (credit (debit holdings a value) b value i).toNat = ∑ i, (holdings i).toNat := by
  have hdebit := toNat_sum_debit h
  rw [toNat_sum_credit (by rw [hdebit]; exact hfits), hdebit]
