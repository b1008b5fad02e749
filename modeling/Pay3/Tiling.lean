import Mathlib.Data.List.Perm.Basic
import Mathlib.Data.Nat.Basic

/-!
# Ranges that tile an interval

A range `(a, b)` covers the numbers above `a` and up to `b`. A list of ranges
tiles an interval when each begins where the one before it ended: then every
number of the interval is covered by exactly one of them, and no other number
by any.

Whatever covers every number of an interval once, in whatever order, splits the
rows with a number in that interval: read part by part, they are all there.
-/

/-- **The ranges tile the numbers above `lo` and up to `hi`**, in order. -/
inductive Tiles : ℕ → List (ℕ × ℕ) → ℕ → Prop
  | nil (lo : ℕ) : Tiles lo [] lo
  | cons {lo mid hi : ℕ} {rest : List (ℕ × ℕ)} (hle : lo ≤ mid) (hrest : Tiles mid rest hi) :
      Tiles lo ((lo, mid) :: rest) hi

/-- Whether a range covers a number. -/
def covers (n : ℕ) (r : ℕ × ℕ) : Bool := decide (r.1 < n) && decide (n ≤ r.2)

theorem Tiles.le {lo hi : ℕ} {ranges : List (ℕ × ℕ)} (h : Tiles lo ranges hi) : lo ≤ hi := by
  induction h with
  | nil lo => exact Nat.le_refl lo
  | cons hle _ ih => exact Nat.le_trans hle ih

/-- **No gap and no overlap.** -/
theorem Tiles.countP_covers {lo hi : ℕ} {ranges : List (ℕ × ℕ)} (h : Tiles lo ranges hi) (n : ℕ) :
    ranges.countP (covers n) = if lo < n ∧ n ≤ hi then 1 else 0 := by
  induction h with
  | nil lo =>
    rw [if_neg (by omega)]
    rfl
  | @cons lo mid hi rest hle hrest ih =>
    have hmid := hrest.le
    rw [List.countP_cons, ih]
    by_cases hfirst : lo < n ∧ n ≤ mid
    · rw [if_neg (by omega), if_pos (by simpa [covers] using hfirst), if_pos (by omega)]
    · have hnot : ¬ covers n (lo, mid) = true := by simpa [covers] using hfirst
      rw [if_neg hnot]
      by_cases hlater : mid < n ∧ n ≤ hi
      · rw [if_pos hlater, if_pos (by omega)]
      · rw [if_neg hlater, if_neg (by omega)]

/-! ## Reading part by part -/

section Partition

variable {α β : Type*}

/-- The copies of one element that the parts select. -/
theorem flatMap_selected (selects : β → α → Bool) (x : α) (parts : List β) :
    parts.flatMap (fun p => if selects p x then [x] else [])
      = List.replicate (parts.countP (fun p => selects p x)) x := by
  induction parts with
  | nil => rfl
  | cons p parts ih =>
    rw [List.flatMap_cons, ih, List.countP_cons]
    by_cases hp : selects p x = true
    · rw [if_pos hp, if_pos hp, List.replicate_succ]
      rfl
    · rw [if_neg hp, if_neg hp]
      rfl

/-- **A partition loses nothing and repeats nothing**: when each element is
selected by one part if it is in the whole, and by none otherwise, the parts
together select the whole. -/
theorem perm_flatMap_filter (selects : β → α → Bool) (whole : α → Bool) (parts : List β)
    (xs : List α)
    (h : ∀ x ∈ xs, parts.countP (fun p => selects p x) = if whole x then 1 else 0) :
    (parts.flatMap (fun p => xs.filter (selects p))).Perm (xs.filter whole) := by
  induction xs with
  | nil => simp
  | cons x xs ih =>
    have hone : parts.flatMap (fun p => if selects p x then [x] else [])
        = if whole x then [x] else [] := by
      rw [flatMap_selected, h x List.mem_cons_self]
      by_cases hx : whole x = true
      · rw [if_pos hx, if_pos hx]
        rfl
      · rw [if_neg hx, if_neg hx]
        rfl
    have hsplit : ∀ q : α → Bool,
        (x :: xs).filter q = (if q x then [x] else []) ++ xs.filter q := by
      intro q
      rw [List.filter_cons]
      by_cases hq : q x = true
      · rw [if_pos hq, if_pos hq]
        rfl
      · rw [if_neg hq, if_neg hq]
        rfl
    simp only [hsplit]
    refine (List.flatMap_append_perm parts _ _).symm.trans ?_
    rw [hone]
    exact (ih (fun y hy => h y (List.mem_cons_of_mem x hy))).append_left _

end Partition
