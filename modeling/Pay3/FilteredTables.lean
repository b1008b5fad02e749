import Pay3.Tables

/-!
# Tables seen through a filter

A reader may be shown the rows of a table that a predicate `q` keeps. A read
that only ever selects kept rows finds there what it finds in the whole table,
and a check that only kept rows can fail comes to the same. A write is seen if it
writes kept rows, and is not seen if it writes others, as long as a row is kept
by what a write does not change.
-/

variable {ρ κ : Type} {p q : ρ → Bool} {rows : List ρ}

/-- A lookup that selects kept rows. -/
theorem find?_filter_of_imp (h : ∀ r ∈ rows, p r = true → q r = true) :
    (rows.filter q).find? p = rows.find? p := by
  induction rows with
  | nil => rfl
  | cons r rows ih =>
    have hrest := ih (fun r' hr' => h r' (List.mem_cons_of_mem r hr'))
    cases hp : p r with
    | true =>
      rw [List.filter_cons_of_pos (h r List.mem_cons_self hp), List.find?_cons_of_pos hp,
        List.find?_cons_of_pos hp]
    | false =>
      rw [List.find?_cons_of_neg (by simp [hp])]
      by_cases hq : q r = true
      · rw [List.filter_cons_of_pos hq, List.find?_cons_of_neg (by simp [hp]), hrest]
      · rw [List.filter_cons_of_neg hq, hrest]

/-- A selection of kept rows. -/
theorem filter_filter_of_imp (h : ∀ r ∈ rows, p r = true → q r = true) :
    (rows.filter q).filter p = rows.filter p := by
  rw [List.filter_filter]
  refine List.filter_congr (fun r hr => ?_)
  cases hp : p r with
  | true => rw [h r hr hp, Bool.and_self]
  | false => rw [Bool.false_and]

/-- Whether a kept row is there. -/
theorem any_filter_of_imp (h : ∀ r ∈ rows, p r = true → q r = true) :
    (rows.filter q).any p = rows.any p := by
  rw [← List.isSome_find?, ← List.isSome_find?, find?_filter_of_imp h]

/-- A check that only kept rows can fail. -/
theorem all_filter_of_imp (h : ∀ r ∈ rows, q r = false → p r = true) :
    (rows.filter q).all p = rows.all p := by
  induction rows with
  | nil => rfl
  | cons r rows ih =>
    have hrest := ih (fun r' hr' => h r' (List.mem_cons_of_mem r hr'))
    cases hq : q r with
    | true => rw [List.filter_cons_of_pos hq, List.all_cons, List.all_cons, hrest]
    | false =>
      rw [List.filter_cons_of_neg (by simp [hq]), List.all_cons, h r List.mem_cons_self hq,
        Bool.true_and, hrest]

/-- A row that is kept is added. -/
theorem filter_append_of_pos {row : ρ} (h : q row = true) :
    (rows ++ [row]).filter q = rows.filter q ++ [row] := by
  rw [List.filter_append, List.filter_cons_of_pos h, List.filter_nil]

/-- A row that is not kept is added. -/
theorem filter_append_of_neg {row : ρ} (h : q row = false) :
    (rows ++ [row]).filter q = rows.filter q := by
  rw [List.filter_append, List.filter_cons_of_neg (by simp [h]), List.filter_nil, List.append_nil]

section Writes

variable {f : ρ → ρ} [DecidableEq κ] {key : ρ → κ} {row : ρ}

/-- An update that leaves rows kept or not as they were. -/
theorem filter_updateWhere_of_eq (h : ∀ r, q (f r) = q r) :
    (updateWhere p f rows).filter q = updateWhere p f (rows.filter q) := by
  unfold updateWhere
  rw [List.filter_map]
  congr 1
  refine List.filter_congr (fun r _ => ?_)
  show q (if p r then f r else r) = q r
  cases p r with
  | true => exact h r
  | false => rfl

/-- Two updates that do the same to the rows they select. -/
theorem updateWhere_congr {g : ρ → ρ} (h : ∀ r ∈ rows, p r = true → f r = g r) :
    updateWhere p f rows = updateWhere p g rows := by
  refine List.map_congr_left (fun r hr => ?_)
  cases hp : p r with
  | true => exact h r hr hp
  | false => rfl

/-- An update of rows that are not kept. -/
theorem filter_updateWhere_of_not (h : ∀ r, q (f r) = q r)
    (hp : ∀ r ∈ rows, p r = true → q r = false) :
    (updateWhere p f rows).filter q = rows.filter q := by
  rw [filter_updateWhere_of_eq h]
  refine updateWhere_of_forall_false (fun r hr => ?_)
  obtain ⟨hmem, hq⟩ := List.mem_filter.mp hr
  cases hpr : p r with
  | false => rfl
  | true =>
    rw [hp r hmem hpr] at hq
    cases hq

/-- A row that is kept is written under its key. -/
theorem filter_upsertBy (hkey : ∀ r, key r = key row → q r = true) (hrow : q row = true) :
    (upsertBy key row rows).filter q = upsertBy key row (rows.filter q) := by
  induction rows with
  | nil => simp [upsertBy, hrow]
  | cons r rows ih =>
    show (if _ then _ else _ : List ρ).filter q = _
    by_cases hk : key r = key row
    · rw [if_pos hk, List.filter_cons_of_pos (hkey r hk), List.filter_cons_of_pos hrow]
      show _ = if _ then _ else _
      rw [if_pos hk]
    · rw [if_neg hk]
      by_cases hq : q r = true
      · rw [List.filter_cons_of_pos hq, List.filter_cons_of_pos hq, ih]
        show _ = if _ then _ else _
        rw [if_neg hk]
      · rw [List.filter_cons_of_neg hq, List.filter_cons_of_neg hq, ih]

/-- A row that is not kept is written under its key. -/
theorem filter_upsertBy_of_not (hkey : ∀ r, key r = key row → q r = false)
    (hrow : q row = false) : (upsertBy key row rows).filter q = rows.filter q := by
  induction rows with
  | nil => simp [upsertBy, hrow]
  | cons r rows ih =>
    unfold upsertBy
    by_cases hk : key r = key row
    · rw [if_pos hk, List.filter_cons_of_neg (by simp [hrow]),
        List.filter_cons_of_neg (by simp [hkey r hk])]
    · rw [if_neg hk, List.filter_cons, List.filter_cons, ih]

end Writes
