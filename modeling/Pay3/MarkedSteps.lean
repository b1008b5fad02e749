import Pay3.Runs
import Mathlib.Algebra.Order.Sub.Basic

/-!
# Marked steps of a run

Some steps of a run are marked, and which they are may depend on the state
they are taken in, so they are counted along the run.

The rules use the count, or the sum of what each step weighs. If no step lets
a backlog grow and each marked one takes `d` off it, as long as there is
anything left, then a run with enough marked steps ends with none, wherever in
the run they stand (`backlog_of_run`). If each marked step adds `d` to a
potential, and no step takes anything off it but the lost ones, which take at
most `d`, then the run cannot have many more marked steps than lost ones while
the potential stays small (`gain_of_run`). A flag that only the marked steps
raise is up at the end if it was at the start or there was one
(`flag_of_run`). A value to which each step adds its weight, as long as the
value stays below a bound, has grown by the weight of the run if that stays
below the bound (`sum_of_run`). And what holds at the end and not at the start
was made true by one of the steps (`exists_step_of_run`).
-/

variable {σ α : Type*}

/-- **The marked steps of a run.** -/
def countSteps (step : σ → α → Option σ) (mark : σ → α → Bool) : σ → List α → ℕ
  | _, [] => 0
  | s, a :: as => (if mark s a then 1 else 0) +
      match step s a with
      | none => 0
      | some t => countSteps step mark t as

variable {step : σ → α → Option σ} {mark lost : σ → α → Bool} {P : σ → α → Prop}

theorem countSteps_cons {s t : σ} {a : α} {as : List α} (ht : step s a = some t) :
    countSteps step mark s (a :: as)
      = (if mark s a then 1 else 0) + countSteps step mark t as := by
  rw [countSteps, ht]

/-- **The draining rule.** A backlog that no step lets grow, and of which each
marked step takes `d`, is down by `d` for every marked step of the run. -/
theorem backlog_of_run {I : σ → Prop} {b : σ → ℕ} {d : ℕ}
    (hinv : ∀ s a t, I s → P s a → step s a = some t → I t)
    (hkeep : ∀ s a t, I s → P s a → step s a = some t → b t ≤ b s)
    (hdrain : ∀ s a t, I s → P s a → mark s a = true → step s a = some t →
      b t ≤ b s - d)
    {s u : σ} {as : List α} (hs : I s) (hP : StepsMeet step P s as)
    (hr : runSteps step s as = some u) :
    b u ≤ b s - d * countSteps step mark s as := by
  induction as generalizing s with
  | nil =>
    obtain rfl := Option.some.inj hr
    exact le_rfl
  | cons a as ih =>
    obtain ⟨t, ht, hu⟩ := runSteps_cons_eq_some.mp hr
    obtain ⟨hPa, hPas⟩ := (stepsMeet_cons ht).mp hP
    have hrest := ih (hinv s a t hs hPa ht) hPas hu
    rw [countSteps_cons ht]
    by_cases hm : mark s a = true
    · rw [if_pos hm, Nat.mul_add, Nat.mul_one, ← Nat.sub_sub]
      exact hrest.trans (Nat.sub_le_sub_right (hdrain s a t hs hPa hm ht) _)
    · rw [if_neg hm, Nat.zero_add]
      exact hrest.trans (Nat.sub_le_sub_right (hkeep s a t hs hPa ht) _)

/-- **The gain rule.** A potential to which each marked step adds `d`, and off
which the lost steps take at most `d` and the others nothing, pays for every
marked step that is not made up for by a lost one. -/
theorem gain_of_run {I : σ → Prop} {potential : σ → ℕ} {d : ℕ}
    (hinv : ∀ s a t, I s → P s a → step s a = some t → I t)
    (hgain : ∀ s a t, I s → P s a → step s a = some t →
      potential s + (if mark s a then d else 0) ≤ potential t + (if lost s a then d else 0))
    {s u : σ} {as : List α} (hs : I s) (hP : StepsMeet step P s as)
    (hr : runSteps step s as = some u) :
    potential s + d * countSteps step mark s as
      ≤ potential u + d * countSteps step lost s as := by
  induction as generalizing s with
  | nil =>
    obtain rfl := Option.some.inj hr
    exact le_rfl
  | cons a as ih =>
    obtain ⟨t, ht, hu⟩ := runSteps_cons_eq_some.mp hr
    obtain ⟨hPa, hPas⟩ := (stepsMeet_cons ht).mp hP
    have hfirst := hgain s a t hs hPa ht
    have hrest := ih (hinv s a t hs hPa ht) hPas hu
    have hone : ∀ b : Bool, d * (if b then 1 else 0) = if b then d else 0 := fun b => by
      cases b
      · exact Nat.mul_zero d
      · exact Nat.mul_one d
    rw [countSteps_cons ht, countSteps_cons ht, Nat.mul_add, Nat.mul_add, hone, hone]
    omega

/-- **The flag rule.** A flag that the marked steps raise, and no step lowers. -/
theorem flag_of_run {flag : σ → Prop}
    (hflag : ∀ s a t, step s a = some t → (flag t ↔ flag s ∨ mark s a = true))
    {s u : σ} {as : List α} (hr : runSteps step s as = some u) :
    flag u ↔ flag s ∨ 0 < countSteps step mark s as := by
  induction as generalizing s with
  | nil =>
    obtain rfl := Option.some.inj hr
    exact ⟨Or.inl, fun h => h.resolve_right (Nat.lt_irrefl 0)⟩
  | cons a as ih =>
    obtain ⟨t, ht, hrest⟩ := runSteps_cons_eq_some.mp hr
    rw [ih hrest, hflag s a t ht, countSteps_cons ht, or_assoc]
    refine or_congr_right ?_
    by_cases hm : mark s a = true
    · rw [if_pos hm]
      exact ⟨fun _ => by omega, fun _ => Or.inl hm⟩
    · rw [if_neg hm, Nat.zero_add]
      exact ⟨fun h => h.resolve_left hm, Or.inr⟩

/-- **The weight of a run**: of all its steps together. -/
def sumSteps (step : σ → α → Option σ) (weight : σ → α → ℕ) : σ → List α → ℕ
  | _, [] => 0
  | s, a :: as => weight s a +
      match step s a with
      | none => 0
      | some t => sumSteps step weight t as

theorem sumSteps_cons {weight : σ → α → ℕ} {s t : σ} {a : α} {as : List α}
    (ht : step s a = some t) :
    sumSteps step weight s (a :: as) = weight s a + sumSteps step weight t as := by
  rw [sumSteps, ht]

/-- The marked steps are those of weight one. -/
theorem countSteps_eq_sumSteps (s : σ) (as : List α) :
    countSteps step mark s as = sumSteps step (fun s a => if mark s a then 1 else 0) s as := by
  induction as generalizing s with
  | nil => rfl
  | cons a as ih =>
    rw [countSteps, sumSteps]
    cases step s a with
    | none => rfl
    | some t => exact congrArg _ (ih t)

/-- **The sum rule.** What a value has below a bound it keeps, and each step adds its weight,
as long as the sum stays below the bound. -/
theorem sum_of_run {I : σ → Prop} {v : σ → ℕ} {w : σ → α → ℕ} {bound : ℕ}
    (hstep : ∀ s a t, I s → v s + w s a < bound → step s a = some t →
      I t ∧ v t = v s + w s a)
    {s u : σ} {as : List α} (hs : I s) (hbound : v s + sumSteps step w s as < bound)
    (hr : runSteps step s as = some u) :
    I u ∧ v u = v s + sumSteps step w s as := by
  induction as generalizing s with
  | nil =>
    obtain rfl := Option.some.inj hr
    exact ⟨hs, rfl⟩
  | cons a as ih =>
    obtain ⟨t, ht, hrest⟩ := runSteps_cons_eq_some.mp hr
    rw [sumSteps_cons ht, ← Nat.add_assoc] at hbound ⊢
    obtain ⟨hI, hv⟩ := hstep s a t hs (lt_of_le_of_lt (Nat.le_add_right _ _) hbound) ht
    rw [← hv] at hbound ⊢
    exact ih hI hbound hrest

/-- **The counting rule.** A value to which each marked step adds one counts them. -/
theorem count_of_run {v : σ → ℕ}
    (hstep : ∀ s a t, step s a = some t → v t = v s + if mark s a then 1 else 0)
    {s u : σ} {as : List α} (hr : runSteps step s as = some u) :
    v u = v s + countSteps step mark s as := by
  rw [countSteps_eq_sumSteps]
  exact (sum_of_run (I := fun _ => True) (fun s a t _ _ h => ⟨trivial, hstep s a t h⟩) trivial
    (Nat.lt_succ_self _) hr).2

/-- **The turning point.** What holds where a run ends and not where it starts
was made true by one of its steps. -/
theorem exists_step_of_run {p : σ → Prop} {s u : σ} {as : List α} (hs : ¬ p s) (hu : p u)
    (hr : runSteps step s as = some u) :
    ∃ before a after t t', as = before ++ a :: after ∧ runSteps step s before = some t
      ∧ step t a = some t' ∧ ¬ p t ∧ p t' := by
  induction as generalizing s with
  | nil =>
    obtain rfl := Option.some.inj hr
    exact absurd hu hs
  | cons a as ih =>
    obtain ⟨t, ht, hrest⟩ := runSteps_cons_eq_some.mp hr
    by_cases hp : p t
    · exact ⟨[], a, as, s, t, rfl, rfl, ht, hs, hp⟩
    · obtain ⟨before, b, after, w, w', rfl, hbefore, hstep, hw, hw'⟩ := ih hp hrest
      exact ⟨a :: before, b, after, w, w', rfl,
        runSteps_cons_eq_some.mpr ⟨t, ht, hbefore⟩, hstep, hw, hw'⟩
