import Pay3.Tables
import Mathlib.Logic.Function.Basic

/-!
# Row locks and uncommitted rows

What `READ COMMITTED` gives a transaction. A statement sees the rows that were
committed when it began, with those the transaction itself has written laid
over them: `overlay` for a table it inserts into or updates, `replaceRows` for
one it only updates. A row that is written is locked until the transaction
ends, and another transaction that wants the lock waits for it.

Nothing here knows what the rows are; keys and rows are of any type.
-/

variable {κ ρ : Type} [DecidableEq κ]

/-! ## Locks -/

/-- **Who holds each lock.** -/
abbrev RowLocks (κ : Type) := κ → Option ℕ

namespace RowLocks

/-- A transaction gets a lock that is free, or its own. -/
def isFree (locks : RowLocks κ) (t : ℕ) (k : κ) : Bool :=
  (locks k).all (fun holder => decide (holder = t))

/-- The lock is taken. -/
def acquire (locks : RowLocks κ) (t : ℕ) (k : κ) : RowLocks κ := Function.update locks k (some t)

/-- The locks of a transaction that ends are given back. -/
def release (locks : RowLocks κ) (t : ℕ) : RowLocks κ :=
  fun k => if locks k = some t then none else locks k

variable {locks : RowLocks κ} {t t' : ℕ} {k k' : κ}

@[simp] theorem acquire_self (locks : RowLocks κ) (t : ℕ) (k : κ) :
    locks.acquire t k k = some t := by
  simp [acquire]

/-- Taking a free lock takes it from nobody. -/
theorem held_of_acquire (hfree : locks.isFree t k = true) (h : locks k' = some t') :
    locks.acquire t k k' = some t' := by
  unfold acquire
  by_cases hk : k' = k
  · subst hk
    unfold isFree at hfree
    rw [h, Option.all_some, decide_eq_true_eq] at hfree
    rw [Function.update_self, hfree]
  · rw [Function.update_of_ne hk, h]

omit [DecidableEq κ] in
/-- The locks of the others stay where they are. -/
theorem held_of_release (hne : t' ≠ t) (h : locks k = some t') :
    locks.release t k = some t' := by
  unfold release
  rw [h, if_neg (fun hc => hne (Option.some.inj hc))]

end RowLocks

/-! ## Rows laid over rows -/

/-- **The rows a transaction sees** in a table it writes to: its own, and the
committed ones it has not written. -/
def overlay (key : ρ → κ) (base writes : List ρ) : List ρ :=
  base.filter (fun r => writes.all (fun w => decide (key w ≠ key r))) ++ writes

@[simp] theorem overlay_nil (key : ρ → κ) (base : List ρ) : overlay key base [] = base := by
  simp [overlay]

theorem mem_overlay {key : ρ → κ} {base writes : List ρ} {r : ρ} :
    r ∈ overlay key base writes
      ↔ (r ∈ base ∧ ∀ w ∈ writes, key w ≠ key r) ∨ r ∈ writes := by
  unfold overlay
  rw [List.mem_append, List.mem_filter, List.all_eq_true]
  simp only [decide_eq_true_eq]

/-- A key that is in neither part is not found. -/
theorem find?_overlay_eq_none {key : ρ → κ} {base writes : List ρ} {k : κ}
    (h : (overlay key base writes).find? (fun r => decide (key r = k)) = none) :
    ∀ r ∈ base ++ writes, key r ≠ k := by
  rw [List.find?_eq_none] at h
  have hwrites : ∀ w ∈ writes, key w ≠ k :=
    fun w hw => by simpa using h w (mem_overlay.mpr (Or.inr hw))
  intro r hr hk
  rcases List.mem_append.mp hr with hbase | hw
  · have hmem : r ∈ overlay key base writes :=
      mem_overlay.mpr (Or.inl ⟨hbase, fun w hw => hk.symm ▸ hwrites w hw⟩)
    simpa [hk] using h r hmem
  · exact hwrites r hw hk

/-- **The rows a transaction sees** in a table it only updates. -/
def replaceRows (key : ρ → κ) (base writes : List ρ) : List ρ :=
  base.map (fun r => (writes.find? (fun w => decide (key w = key r))).getD r)

@[simp] theorem replaceRows_nil (key : ρ → κ) (base : List ρ) : replaceRows key base [] = base := by
  simp [replaceRows]

/-- A row seen is one of the transaction, or a committed one it has not written. -/
theorem mem_replaceRows {key : ρ → κ} {base writes : List ρ} {r : ρ}
    (h : r ∈ replaceRows key base writes) :
    r ∈ writes ∨ (r ∈ base ∧ ∀ w ∈ writes, key w ≠ key r) := by
  obtain ⟨b, hb, rfl⟩ := List.mem_map.mp h
  cases hf : writes.find? (fun w => decide (key w = key b)) with
  | some w =>
    rw [Option.getD_some]
    exact Or.inl (List.mem_of_find?_eq_some hf)
  | none =>
    rw [Option.getD_none]
    refine Or.inr ⟨hb, fun w hw => ?_⟩
    simpa using List.find?_eq_none.mp hf w hw

/-- A committed row the transaction has not written is seen as it is. -/
theorem mem_replaceRows_of_ne {key : ρ → κ} {base writes : List ρ} {r : ρ} (hr : r ∈ base)
    (hne : ∀ w ∈ writes, key w ≠ key r) : r ∈ replaceRows key base writes := by
  refine List.mem_map.mpr ⟨r, hr, ?_⟩
  rw [List.find?_eq_none.mpr (fun w hw => by simpa using hne w hw), Option.getD_none]

/-- The keys of a table are not changed by updates. -/
theorem map_replaceRows (key : ρ → κ) (base writes : List ρ) :
    (replaceRows key base writes).map key = base.map key := by
  unfold replaceRows
  rw [List.map_map]
  refine List.map_congr_left (fun r _ => ?_)
  rw [Function.comp_apply]
  cases hf : writes.find? (fun w => decide (key w = key r)) with
  | some w =>
    rw [Option.getD_some]
    exact (mem_of_find?_key hf).2
  | none => rw [Option.getD_none]
