import Mathlib.Data.List.Dedup
import Mathlib.Data.List.Nodup
import Mathlib.Data.List.Sort

/-!
# Tables as lists of rows

A table is the list of its rows, in insertion order. An `UPDATE … WHERE` is
`updateWhere`, the rows it affects are counted by `List.countP`, and a lookup
by primary key is `List.find?`. The lemmas say what an update leaves alone:
the rows it does not select, and every column it does not set.

The results of repositories are in `Except`: a transaction that returns an
error is rolled back, so it has no next state at all.
-/

variable {ρ κ ε β γ : Type}

/-! ## Fallible steps -/

/-- **A check that aborts the transaction** with the error `e` unless `b`. -/
def ensure (b : Bool) (e : ε) : Except ε Unit := if b then .ok () else .error e

@[simp] theorem ensure_eq_ok {b : Bool} {e : ε} {u : Unit} :
    ensure b e = .ok u ↔ b = true := by
  cases b <;> simp [ensure]

/-- A sequence of fallible steps succeeds when each of its steps does. -/
theorem Except.bind_eq_ok {x : Except ε β} {f : β → Except ε γ} {c : γ} :
    (x >>= f) = .ok c ↔ ∃ b, x = .ok b ∧ f b = .ok c := by
  cases x with
  | error e => simp [bind, Except.bind]
  | ok b => simp [bind, Except.bind]

/-- A successful check goes on to the next step. -/
theorem ensure_bind_eq_ok {b : Bool} {e : ε} {f : Unit → Except ε γ} {c : γ} :
    (ensure b e >>= f) = .ok c ↔ b = true ∧ f () = .ok c := by
  rw [Except.bind_eq_ok]
  constructor
  · rintro ⟨u, hu, hf⟩
    exact ⟨ensure_eq_ok.mp hu, hf⟩
  · rintro ⟨hb, hf⟩
    exact ⟨(), ensure_eq_ok.mpr hb, hf⟩

/-- A sequence has a result when its first part has one from which the rest has
one. -/
theorem Except.exists_bind_eq_ok {x : Except ε β} {f : β → Except ε γ} :
    (∃ c, (x >>= f) = .ok c) ↔ ∃ b, x = .ok b ∧ ∃ c, f b = .ok c := by
  constructor
  · rintro ⟨c, h⟩
    obtain ⟨b, hb, hc⟩ := Except.bind_eq_ok.mp h
    exact ⟨b, hb, c, hc⟩
  · rintro ⟨b, hb, c, hc⟩
    exact ⟨c, Except.bind_eq_ok.mpr ⟨b, hb, hc⟩⟩

/-- A guarded sequence has a result when the guard holds and the rest has one. -/
theorem exists_ensure_bind_eq_ok {b : Bool} {e : ε} {f : Unit → Except ε γ} :
    (∃ c, (ensure b e >>= f) = .ok c) ↔ b = true ∧ ∃ c, f () = .ok c := by
  constructor
  · rintro ⟨c, h⟩
    obtain ⟨hb, hc⟩ := ensure_bind_eq_ok.mp h
    exact ⟨hb, c, hc⟩
  · rintro ⟨hb, c, hc⟩
    exact ⟨c, ensure_bind_eq_ok.mpr ⟨hb, hc⟩⟩

@[simp] theorem Except.pure_eq_ok {b c : β} : (pure b : Except ε β) = .ok c ↔ b = c := by
  simp [pure, Except.pure]

/-- A mapped result comes from a result. -/
theorem Except.map_eq_ok {x : Except ε β} {f : β → γ} {c : γ} :
    x.map f = .ok c ↔ ∃ b, x = .ok b ∧ f b = c := by
  cases x with
  | error e => simp [Except.map]
  | ok b => simp [Except.map]

/-- A result with its error renamed. -/
theorem Except.mapError_eq_ok {ε' : Type*} {x : Except ε β} {f : ε → ε'} {b : β} :
    x.mapError f = .ok b ↔ x = .ok b := by
  cases x with
  | error e => simp [Except.mapError]
  | ok c => simp [Except.mapError]

/-- **The errors that can come out**: whatever `x` fails with is one of `P`. -/
def Except.FailsOnly (P : ε → Prop) (x : Except ε β) : Prop := ∀ e, x = .error e → P e

section FailsOnly

variable {P : ε → Prop}

theorem Except.failsOnly_ok (b : β) : Except.FailsOnly P (.ok b) := fun _ h => nomatch h

theorem Except.failsOnly_error {e : ε} (he : P e) :
    Except.FailsOnly P (.error e : Except ε β) :=
  fun _ h => Except.error.inj h ▸ he

theorem failsOnly_ensure {b : Bool} {e : ε} (he : P e) : Except.FailsOnly P (ensure b e) := by
  cases b with
  | true => exact Except.failsOnly_ok ()
  | false => exact Except.failsOnly_error he

/-- Steps one after the other fail as one of them does. -/
theorem Except.FailsOnly.bind {x : Except ε β} {f : β → Except ε γ} (hx : x.FailsOnly P)
    (hf : ∀ b, x = .ok b → (f b).FailsOnly P) : (x >>= f).FailsOnly P := by
  cases x with
  | error e => exact fun e' h => hx e' (by simpa [Bind.bind, Except.bind] using h)
  | ok b => exact hf b rfl

theorem Except.FailsOnly.mapError {ε' : Type} {Q : ε' → Prop} {x : Except ε β} {f : ε → ε'}
    (hx : ∀ e, x = .error e → Q (f e)) : (x.mapError f).FailsOnly Q := by
  cases x with
  | error e => exact Except.failsOnly_error (hx e rfl)
  | ok b => exact Except.failsOnly_ok b

/-- Two results with the same only error are equal if they are there together. -/
theorem Except.eq_of_failsOnly {x y : Except ε β} {e : ε} (hx : x.FailsOnly (· = e))
    (hy : y.FailsOnly (· = e)) (h : ∀ b, x = .ok b ↔ y = .ok b) : x = y := by
  cases x with
  | ok b => exact ((h b).mp rfl).symm
  | error e₁ =>
    cases y with
    | ok b => exact (h b).mpr rfl
    | error e₂ => rw [hx e₁ rfl, hy e₂ rfl]

end FailsOnly

/-- A result is there when nothing failed. -/
theorem Except.toOption_eq_some {x : Except ε β} {b : β} : x.toOption = some b ↔ x = .ok b := by
  cases x with
  | error e => simp [Except.toOption]
  | ok c => simp [Except.toOption]

/-- The value of an optional lookup, or the error `e`. -/
def orError (x : Option β) (e : ε) : Except ε β :=
  match x with
  | some b => .ok b
  | none => .error e

theorem failsOnly_orError {P : ε → Prop} {x : Option β} {e : ε} (he : P e) :
    (orError x e).FailsOnly P := by
  cases x with
  | none => exact Except.failsOnly_error he
  | some b => exact Except.failsOnly_ok b

@[simp] theorem orError_eq_ok {x : Option β} {e : ε} {b : β} :
    orError x e = .ok b ↔ x = some b := by
  cases x <;> simp [orError]

/-- **A fallible read of every row**, which fails with the first row that
cannot be read. -/
def collectOk (f : ρ → Except ε β) : List ρ → Except ε (List β)
  | [] => .ok []
  | r :: rows => do
    let b ← f r
    let bs ← collectOk f rows
    pure (b :: bs)

/-- What was read comes from the rows, each of which could be read. -/
theorem mem_collectOk {f : ρ → Except ε β} {rows : List ρ} {bs : List β}
    (h : collectOk f rows = .ok bs) {b : β} : b ∈ bs ↔ ∃ r ∈ rows, f r = .ok b := by
  induction rows generalizing bs with
  | nil =>
    rw [← Except.ok.inj h]
    simp
  | cons r rows ih =>
    unfold collectOk at h
    obtain ⟨b', hb', h⟩ := Except.bind_eq_ok.mp h
    obtain ⟨bs', hbs', h⟩ := Except.bind_eq_ok.mp h
    rw [← Except.pure_eq_ok.mp h, List.mem_cons, ih hbs']
    constructor
    · rintro (rfl | ⟨q, hq, hb⟩)
      · exact ⟨r, List.mem_cons_self, hb'⟩
      · exact ⟨q, List.mem_cons_of_mem r hq, hb⟩
    · rintro ⟨q, hq, hb⟩
      rcases List.mem_cons.mp hq with rfl | hq
      · exact Or.inl (Except.ok.inj (hb.symm.trans hb'))
      · exact Or.inr ⟨q, hq, hb⟩

/-- When every row could be read, each of them was. -/
theorem exists_of_collectOk {f : ρ → Except ε β} {rows : List ρ} {bs : List β}
    (h : collectOk f rows = .ok bs) {r : ρ} (hr : r ∈ rows) : ∃ b ∈ bs, f r = .ok b := by
  induction rows generalizing bs with
  | nil => exact absurd hr List.not_mem_nil
  | cons q rows ih =>
    unfold collectOk at h
    obtain ⟨b', hb', h⟩ := Except.bind_eq_ok.mp h
    obtain ⟨bs', hbs', h⟩ := Except.bind_eq_ok.mp h
    rw [← Except.pure_eq_ok.mp h]
    rcases List.mem_cons.mp hr with rfl | hr
    · exact ⟨b', List.mem_cons_self, hb'⟩
    · obtain ⟨b, hb, hf⟩ := ih hbs' hr
      exact ⟨b, List.mem_cons_of_mem b' hb, hf⟩

/-- Rows that can all be read are read. -/
theorem exists_collectOk {f : ρ → Except ε β} {rows : List ρ}
    (h : ∀ r ∈ rows, ∃ b, f r = .ok b) : ∃ bs, collectOk f rows = .ok bs := by
  induction rows with
  | nil => exact ⟨[], rfl⟩
  | cons r rows ih =>
    obtain ⟨b, hb⟩ := h r List.mem_cons_self
    obtain ⟨bs, hbs⟩ := ih (fun q hq => h q (List.mem_cons_of_mem r hq))
    refine ⟨b :: bs, ?_⟩
    unfold collectOk
    rw [hb, hbs]
    rfl

/-- What can be read without an error is read as it is. -/
theorem collectOk_eq_of_map_eq {f : ρ → Except ε β} {rows : List ρ} {bs : List β}
    (h : rows.map f = bs.map Except.ok) : collectOk f rows = .ok bs := by
  induction rows generalizing bs with
  | nil =>
    rw [List.map_nil] at h
    rw [List.map_eq_nil_iff.mp h.symm]
    rfl
  | cons r rows ih =>
    cases bs with
    | nil => cases h
    | cons b bs =>
      rw [List.map_cons, List.map_cons] at h
      obtain ⟨hr, hrows⟩ := List.cons.inj h
      unfold collectOk
      rw [hr, ih hrows]
      rfl

/-- A column that is read as it stands is read in order. -/
theorem map_collectOk {f : ρ → Except ε β} {k : ρ → κ} {k' : β → κ}
    (hk : ∀ r b, f r = .ok b → k' b = k r) {rows : List ρ} {bs : List β}
    (h : collectOk f rows = .ok bs) : bs.map k' = rows.map k := by
  induction rows generalizing bs with
  | nil => rw [← Except.ok.inj h]; rfl
  | cons r rows ih =>
    unfold collectOk at h
    obtain ⟨b, hb, h⟩ := Except.bind_eq_ok.mp h
    obtain ⟨bs', hbs', h⟩ := Except.bind_eq_ok.mp h
    rw [← Except.pure_eq_ok.mp h, List.map_cons, List.map_cons, hk r b hb, ih hbs']

/-! ## Updates -/

/-- **`UPDATE … SET f WHERE p`.** -/
def updateWhere (p : ρ → Bool) (f : ρ → ρ) (rows : List ρ) : List ρ :=
  rows.map (fun r => if p r then f r else r)

/-- A row of the updated table is an old row the update did not select, or
the new version of one it did. -/
theorem mem_updateWhere {p : ρ → Bool} {f : ρ → ρ} {rows : List ρ} {r : ρ} :
    r ∈ updateWhere p f rows
      ↔ (∃ q ∈ rows, p q = true ∧ r = f q) ∨ (r ∈ rows ∧ p r = false) := by
  unfold updateWhere
  rw [List.mem_map]
  constructor
  · rintro ⟨q, hq, rfl⟩
    by_cases hp : p q = true
    · exact Or.inl ⟨q, hq, hp, if_pos hp⟩
    · rw [if_neg hp]
      exact Or.inr ⟨hq, by simpa using hp⟩
  · rintro (⟨q, hq, hp, rfl⟩ | ⟨hr, hp⟩)
    · exact ⟨q, hq, if_pos hp⟩
    · exact ⟨r, hr, by rw [hp]; exact if_neg Bool.false_ne_true⟩

/-- A column the update does not set keeps its values, row by row. -/
theorem map_updateWhere {p : ρ → Bool} {f : ρ → ρ} {k : ρ → κ}
    (h : ∀ r, k (f r) = k r) (rows : List ρ) :
    (updateWhere p f rows).map k = rows.map k := by
  unfold updateWhere
  rw [List.map_map]
  refine List.map_congr_left (fun r _ => ?_)
  by_cases hp : p r = true
  · rw [Function.comp_apply, if_pos hp, h]
  · rw [Function.comp_apply, if_neg hp]

/-- An update that selects no row changes nothing. -/
theorem updateWhere_of_forall_false {p : ρ → Bool} {f : ρ → ρ} {rows : List ρ}
    (h : ∀ r ∈ rows, p r = false) : updateWhere p f rows = rows := by
  unfold updateWhere
  refine (List.map_congr_left (fun r hr => ?_)).trans (List.map_id rows)
  rw [h r hr]
  exact if_neg Bool.false_ne_true

/-- The rows an update selects, once updated. -/
theorem filter_updateWhere {p : ρ → Bool} {f : ρ → ρ} (hp : ∀ r, p r = true → p (f r) = true)
    (rows : List ρ) : (updateWhere p f rows).filter p = (rows.filter p).map f := by
  unfold updateWhere
  induction rows with
  | nil => rfl
  | cons r rows ih =>
    by_cases hr : p r = true
    · simp [hr, hp r hr, ih]
    · simp [hr, ih]

/-- An update that takes rows out of a selection leaves the others in it. -/
theorem countP_updateWhere {p sel : ρ → Bool} {f : ρ → ρ}
    (hsel : ∀ r, sel r = true → p r = true ∧ p (f r) = false) (rows : List ρ) :
    (updateWhere sel f rows).countP p + rows.countP sel = rows.countP p := by
  induction rows with
  | nil => rfl
  | cons r rows ih =>
    have hcons : updateWhere sel f (r :: rows)
        = (if sel r then f r else r) :: updateWhere sel f rows := rfl
    rw [hcons, List.countP_cons, List.countP_cons, List.countP_cons]
    cases h : sel r with
    | true =>
      obtain ⟨hp, hf⟩ := hsel r h
      simp only [hp, hf, if_true, Bool.false_eq_true, if_false]
      omega
    | false =>
      simp only [Bool.false_eq_true, if_false]
      omega

/-- A relation between rows after an update, from one between the rows before
it. -/
theorem pairwise_updateWhere {p : ρ → Bool} {f : ρ → ρ} {R S : ρ → ρ → Prop} {rows : List ρ}
    (h : rows.Pairwise R)
    (hS : ∀ a ∈ rows, ∀ b ∈ rows, R a b → S (if p a then f a else a) (if p b then f b else b)) :
    (updateWhere p f rows).Pairwise S := by
  unfold updateWhere
  rw [List.pairwise_map]
  exact h.imp_of_mem (fun {a b} ha hb hab => hS a ha b hb hab)

/-! ## Lookups by primary key -/

/-- A row with its key is the one a lookup by that key finds, when the key
column has no duplicates. -/
theorem find?_eq_some_of_mem [DecidableEq κ] {key : ρ → κ} {rows : List ρ} {r : ρ}
    (hnd : (rows.map key).Nodup) (hr : r ∈ rows) :
    rows.find? (fun q => decide (key q = key r)) = some r := by
  induction rows with
  | nil => exact absurd hr List.not_mem_nil
  | cons q rows ih =>
    rw [List.map_cons, List.nodup_cons] at hnd
    rw [List.find?_cons]
    rcases List.mem_cons.mp hr with rfl | hr
    · simp
    · have hne : key q ≠ key r := fun h => hnd.1 (h ▸ List.mem_map_of_mem hr)
      simp only [hne, decide_false]
      exact ih hnd.2 hr

/-- What a lookup finds is a row of the table with the key asked for. -/
theorem mem_of_find?_key [DecidableEq κ] {key : ρ → κ} {rows : List ρ} {k : κ} {r : ρ}
    (h : rows.find? (fun q => decide (key q = k)) = some r) : r ∈ rows ∧ key r = k :=
  ⟨List.mem_of_find?_eq_some h, by simpa using List.find?_some h⟩

/-- A lookup by key sees the update of the row it finds, when the update keeps
the key. -/
theorem find?_updateWhere [DecidableEq κ] {key : ρ → κ} {p : ρ → Bool} {f : ρ → ρ}
    (hkey : ∀ r, key (f r) = key r) (k : κ) (rows : List ρ) :
    (updateWhere p f rows).find? (fun r => decide (key r = k))
      = (rows.find? (fun r => decide (key r = k))).map (fun r => if p r then f r else r) := by
  unfold updateWhere
  rw [List.find?_map]
  refine congrArg (Option.map _) (congrArg (fun q => List.find? q rows) (funext fun r => ?_))
  by_cases hp : p r = true
  · rw [Function.comp_apply, if_pos hp, hkey]
  · rw [Function.comp_apply, if_neg hp]

/-- A lookup by key in a longer table finds what it found before. -/
theorem find?_append_of_some {p : ρ → Bool} {rows more : List ρ} {r : ρ}
    (h : rows.find? p = some r) : (rows ++ more).find? p = some r := by
  rw [List.find?_append, h]
  rfl

/-- Exactly one row is selected when the selected rows are all the same one. -/
theorem countP_eq_one [DecidableEq ρ] {p : ρ → Bool} {rows : List ρ} {r : ρ} (hnd : rows.Nodup)
    (hr : r ∈ rows) (hp : p r = true) (huniq : ∀ q ∈ rows, p q = true → q = r) :
    rows.countP p = 1 := by
  have hcongr : rows.countP p = rows.count r := by
    refine List.countP_congr (fun q hq => ?_)
    rw [beq_iff_eq]
    exact ⟨huniq q hq, fun h => h ▸ hp⟩
  rw [hcongr]
  exact List.count_eq_one_of_mem hnd hr

/-! ## Inserting or replacing a row -/

/-- **`INSERT … ON CONFLICT (key) DO UPDATE`**: the row takes the place of the
one with its key, or is appended. -/
def upsertBy [DecidableEq κ] (key : ρ → κ) (row : ρ) : List ρ → List ρ
  | [] => [row]
  | r :: rows => if key r = key row then row :: rows else r :: upsertBy key row rows

/-- The row written is the one read back under its key. -/
theorem find?_upsertBy_self [DecidableEq κ] (key : ρ → κ) (row : ρ) (rows : List ρ) :
    (upsertBy key row rows).find? (fun r => decide (key r = key row)) = some row := by
  induction rows with
  | nil => simp [upsertBy]
  | cons r rows ih =>
    unfold upsertBy
    by_cases h : key r = key row
    · rw [if_pos h, List.find?_cons]
      simp
    · rw [if_neg h, List.find?_cons]
      simpa only [h, decide_false] using ih

/-- What a write leaves is the row written, or was there. -/
theorem mem_of_mem_upsertBy [DecidableEq κ] {key : ρ → κ} {row r : ρ} {rows : List ρ}
    (h : r ∈ upsertBy key row rows) : r = row ∨ r ∈ rows := by
  induction rows with
  | nil => exact Or.inl (List.mem_singleton.mp h)
  | cons q rows ih =>
    unfold upsertBy at h
    by_cases hk : key q = key row
    · rw [if_pos hk] at h
      rcases List.mem_cons.mp h with rfl | h
      · exact Or.inl rfl
      · exact Or.inr (List.mem_cons_of_mem q h)
    · rw [if_neg hk] at h
      rcases List.mem_cons.mp h with rfl | h
      · exact Or.inr List.mem_cons_self
      · exact (ih h).imp id (List.mem_cons_of_mem q)

/-- The rows after a write, when the key column has no duplicates. -/
theorem mem_upsertBy [DecidableEq κ] {key : ρ → κ} {row r : ρ} {rows : List ρ}
    (hnd : (rows.map key).Nodup) :
    r ∈ upsertBy key row rows ↔ r = row ∨ (r ∈ rows ∧ key r ≠ key row) := by
  induction rows with
  | nil => simp [upsertBy]
  | cons q rows ih =>
    rw [List.map_cons, List.nodup_cons] at hnd
    unfold upsertBy
    by_cases hk : key q = key row
    · have hother : ∀ r ∈ rows, key r ≠ key row :=
        fun r hr hc => hnd.1 (hk.trans hc.symm ▸ List.mem_map_of_mem hr)
      rw [if_pos hk, List.mem_cons, List.mem_cons]
      constructor
      · rintro (rfl | hr)
        · exact Or.inl rfl
        · exact Or.inr ⟨Or.inr hr, hother r hr⟩
      · rintro (rfl | ⟨rfl | hr, hne⟩)
        · exact Or.inl rfl
        · exact absurd hk hne
        · exact Or.inr hr
    · rw [if_neg hk, List.mem_cons, List.mem_cons, ih hnd.2]
      constructor
      · rintro (rfl | rfl | ⟨hr, hne⟩)
        · exact Or.inr ⟨Or.inl rfl, hk⟩
        · exact Or.inl rfl
        · exact Or.inr ⟨Or.inr hr, hne⟩
      · rintro (rfl | ⟨rfl | hr, hne⟩)
        · exact Or.inr (Or.inl rfl)
        · exact Or.inl rfl
        · exact Or.inr (Or.inr ⟨hr, hne⟩)

/-- The keys after a write. -/
theorem mem_map_upsertBy [DecidableEq κ] {key : ρ → κ} {row : ρ} {rows : List ρ} {k : κ} :
    k ∈ (upsertBy key row rows).map key ↔ k = key row ∨ k ∈ rows.map key := by
  induction rows with
  | nil => simp [upsertBy]
  | cons q rows ih =>
    unfold upsertBy
    by_cases hk : key q = key row
    · rw [if_pos hk, List.map_cons, List.map_cons, List.mem_cons, List.mem_cons, hk]
      tauto
    · rw [if_neg hk, List.map_cons, List.map_cons, List.mem_cons, List.mem_cons, ih]
      tauto

/-- A write by key keeps the key column free of duplicates. -/
theorem nodup_map_upsertBy [DecidableEq κ] {key : ρ → κ} (row : ρ) {rows : List ρ}
    (hnd : (rows.map key).Nodup) : ((upsertBy key row rows).map key).Nodup := by
  induction rows with
  | nil => simp [upsertBy]
  | cons q rows ih =>
    rw [List.map_cons, List.nodup_cons] at hnd
    unfold upsertBy
    by_cases hk : key q = key row
    · rw [if_pos hk, List.map_cons, List.nodup_cons, ← hk]
      exact hnd
    · rw [if_neg hk, List.map_cons, List.nodup_cons]
      refine ⟨fun hmem => ?_, ih hnd.2⟩
      obtain ⟨r, hr, hkr⟩ := List.mem_map.mp hmem
      rcases mem_of_mem_upsertBy hr with rfl | hold
      · exact hk hkr.symm
      · exact hnd.1 (hkr ▸ List.mem_map_of_mem hold)

/-- A lookup under another key does not see the row. -/
theorem find?_upsertBy_of_ne [DecidableEq κ] (key : ρ → κ) (row : ρ) (rows : List ρ) {k : κ}
    (hk : key row ≠ k) :
    (upsertBy key row rows).find? (fun r => decide (key r = k))
      = rows.find? (fun r => decide (key r = k)) := by
  induction rows with
  | nil => simp [upsertBy, hk]
  | cons r rows ih =>
    unfold upsertBy
    by_cases h : key r = key row
    · rw [if_pos h, List.find?_cons, List.find?_cons]
      simp only [hk, h, decide_false]
    · rw [if_neg h, List.find?_cons, List.find?_cons]
      split
      · rfl
      · exact ih

/-- Writing by key goes through a map that keeps the key. -/
theorem map_upsertBy [DecidableEq κ] {key : ρ → κ} {f : ρ → ρ}
    (hf : ∀ r, key (f r) = key r) (row : ρ) (rows : List ρ) :
    (upsertBy key row rows).map f = upsertBy key (f row) (rows.map f) := by
  induction rows with
  | nil => rfl
  | cons r rows ih =>
    rw [List.map_cons]
    unfold upsertBy
    rw [hf, hf]
    by_cases h : key r = key row
    · rw [if_pos h, if_pos h, List.map_cons]
    · rw [if_neg h, if_neg h, List.map_cons, ih]

/-- **A list of rows written one after the other**, by key. -/
def insertAll [DecidableEq κ] (key : ρ → κ) (new rows : List ρ) : List ρ :=
  new.foldl (fun acc row => upsertBy key row acc) rows

/-- Writing rows by key keeps the key column free of duplicates. -/
theorem nodup_map_insertAll [DecidableEq κ] {key : ρ → κ} {new rows : List ρ}
    (hnd : (rows.map key).Nodup) : ((insertAll key new rows).map key).Nodup := by
  induction new generalizing rows with
  | nil => exact hnd
  | cons row new ih => exact ih (nodup_map_upsertBy row hnd)

/-- What is there after rows with different keys were written: those rows, and the
ones under other keys. -/
theorem mem_insertAll [DecidableEq κ] {key : ρ → κ} {new rows : List ρ} {r : ρ}
    (hnew : (new.map key).Nodup) (hnd : (rows.map key).Nodup) :
    r ∈ insertAll key new rows ↔ r ∈ new ∨ (r ∈ rows ∧ key r ∉ new.map key) := by
  induction new generalizing rows with
  | nil => simp [insertAll]
  | cons row new ih =>
    rw [List.map_cons, List.nodup_cons] at hnew
    show r ∈ insertAll key new (upsertBy key row rows) ↔ _
    rw [ih hnew.2 (nodup_map_upsertBy row hnd), mem_upsertBy hnd, List.map_cons, List.mem_cons,
      List.mem_cons]
    constructor
    · rintro (h | ⟨rfl | ⟨h, hne⟩, hout⟩)
      · exact Or.inl (Or.inr h)
      · exact Or.inl (Or.inl rfl)
      · exact Or.inr ⟨h, fun hin => hin.elim hne hout⟩
    · rintro ((rfl | h) | ⟨h, hout⟩)
      · exact Or.inr ⟨Or.inl rfl, hnew.1⟩
      · exact Or.inl h
      · exact Or.inr ⟨Or.inr ⟨h, fun he => hout (Or.inl he)⟩, fun hin => hout (Or.inr hin)⟩

/-- The rows after rows were written are among them or were there. -/
theorem mem_of_mem_insertAll [DecidableEq κ] {key : ρ → κ} {new rows : List ρ} {r : ρ}
    (h : r ∈ insertAll key new rows) : r ∈ new ∨ r ∈ rows := by
  induction new generalizing rows with
  | nil => exact Or.inr h
  | cons row new ih =>
    rcases ih h with h | h
    · exact Or.inl (List.mem_cons_of_mem row h)
    · rcases mem_of_mem_upsertBy h with rfl | h
      · exact Or.inl List.mem_cons_self
      · exact Or.inr h

/-- The keys after rows were written. -/
theorem mem_map_insertAll [DecidableEq κ] {key : ρ → κ} {new rows : List ρ} {k : κ} :
    k ∈ (insertAll key new rows).map key ↔ k ∈ new.map key ∨ k ∈ rows.map key := by
  induction new generalizing rows with
  | nil => simp [insertAll]
  | cons row new ih =>
    show k ∈ (insertAll key new (upsertBy key row rows)).map key ↔ _
    rw [ih, mem_map_upsertBy, List.map_cons, List.mem_cons]
    tauto

/-- A lookup under a key that was not written sees what was there. -/
theorem find?_insertAll_of_not_mem [DecidableEq κ] {key : ρ → κ} {new rows : List ρ}
    {k : κ} (hk : k ∉ new.map key) :
    (insertAll key new rows).find? (fun r => decide (key r = k))
      = rows.find? (fun r => decide (key r = k)) := by
  induction new generalizing rows with
  | nil => rfl
  | cons row new ih =>
    rw [List.map_cons, List.mem_cons, not_or] at hk
    show (insertAll key new (upsertBy key row rows)).find? _ = _
    rw [ih hk.2, find?_upsertBy_of_ne key row rows (Ne.symm hk.1)]

/-! ## Ordered reads -/

/-- **`ORDER BY … LIMIT 1`**: the first row in the order `le`, the earlier one
on a tie. -/
def firstBy (le : ρ → ρ → Bool) : List ρ → Option ρ
  | [] => none
  | r :: rows =>
    match firstBy le rows with
    | none => some r
    | some q => if le r q then some r else some q

/-- The row an ordered read returns is a row of the table. -/
theorem mem_of_firstBy {le : ρ → ρ → Bool} {rows : List ρ} {r : ρ}
    (h : firstBy le rows = some r) : r ∈ rows := by
  induction rows generalizing r with
  | nil => exact absurd h (by simp [firstBy])
  | cons q rows ih =>
    unfold firstBy at h
    cases hf : firstBy le rows with
    | none =>
      rw [hf] at h
      exact Option.some.inj h ▸ List.mem_cons_self
    | some t =>
      rw [hf] at h
      dsimp only at h
      by_cases hle : le q t = true
      · rw [if_pos hle] at h
        exact Option.some.inj h ▸ List.mem_cons_self
      · rw [if_neg hle] at h
        exact Option.some.inj h ▸ List.mem_cons_of_mem q (ih hf)

/-- The first row in an order exists when there are rows. -/
theorem firstBy_isSome {ρ : Type} {le : ρ → ρ → Bool} {rows : List ρ} {r : ρ} (hr : r ∈ rows) :
    ∃ q, firstBy le rows = some q := by
  cases rows with
  | nil => exact absurd hr List.not_mem_nil
  | cons q rows =>
    unfold firstBy
    split
    · exact ⟨q, rfl⟩
    · split
      · exact ⟨_, rfl⟩
      · exact ⟨_, rfl⟩

/-! ## Sorted sets -/

/-- **A list collected into an ordered set**: each value once, in increasing
order. -/
def sortedSet [DecidableEq κ] [LE κ] [DecidableLE κ] (xs : List κ) : List κ :=
  xs.dedup.insertionSort (· ≤ ·)

/-- The set has the values of the list. -/
@[simp] theorem mem_sortedSet [DecidableEq κ] [LE κ] [DecidableLE κ] {xs : List κ} {x : κ} :
    x ∈ sortedSet xs ↔ x ∈ xs := by
  unfold sortedSet
  rw [List.mem_insertionSort, List.mem_dedup]

/-- A sorted set has no duplicates. -/
theorem nodup_sortedSet [DecidableEq κ] [LE κ] [DecidableLE κ] (xs : List κ) :
    (sortedSet xs).Nodup :=
  (List.perm_insertionSort _ _).nodup_iff.mpr (List.nodup_dedup xs)
