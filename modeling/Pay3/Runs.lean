import Mathlib.Data.List.Basic

/-!
# Runs of a step function

A system is a step function `step : σ → α → Option σ`: the action `a` is
either refused in the state `s` (`none`) or leads to one next state. A run
is a list of actions, each taken from the state the previous one reached.

Two rules carry every result about runs below. `inv_of_run` is the
invariant rule for runs whose steps all meet a side condition, and
`rel_of_run` its two-state form, for facts of the shape "what holds now
still holds at every later state". The side condition is a predicate on a
state and the action about to be taken there, which is what a result of the
form "as long as no step does this" needs.
-/

variable {σ α : Type*}

/-- **The state a run ends in**, if none of its actions is refused. -/
def runSteps (step : σ → α → Option σ) : σ → List α → Option σ
  | s, [] => some s
  | s, a :: as => (step s a).bind (fun t => runSteps step t as)

/-- **Every step of the run meets `P`**: `P` is asked of each state the run
goes through together with the action taken there. -/
def StepsMeet (step : σ → α → Option σ) (P : σ → α → Prop) : σ → List α → Prop
  | _, [] => True
  | s, a :: as => P s a ∧
      match step s a with
      | none => True
      | some t => StepsMeet step P t as

/-- Whether every step of a run meets a decidable condition is decidable. -/
instance StepsMeet.decidable (step : σ → α → Option σ) (P : σ → α → Prop)
    [inst : ∀ s a, Decidable (P s a)] (s : σ) (as : List α) :
    Decidable (StepsMeet step P s as) :=
  match as with
  | [] => inferInstanceAs (Decidable True)
  | a :: as =>
    match h : step s a with
    | none =>
      decidable_of_iff (P s a) (by rw [StepsMeet, h]; exact ⟨fun hP => ⟨hP, trivial⟩, And.left⟩)
    | some t =>
      have : Decidable (StepsMeet step P t as) := StepsMeet.decidable step P t as
      decidable_of_iff (P s a ∧ StepsMeet step P t as) (by rw [StepsMeet, h])

variable {step : σ → α → Option σ} {P : σ → α → Prop}

@[simp] theorem runSteps_nil (s : σ) : runSteps step s [] = some s := rfl

theorem runSteps_cons (s : σ) (a : α) (as : List α) :
    runSteps step s (a :: as) = (step s a).bind (fun t => runSteps step t as) := rfl

/-- A run that starts with `a` takes `a` and goes on. -/
theorem runSteps_cons_eq_some {s u : σ} {a : α} {as : List α} :
    runSteps step s (a :: as) = some u
      ↔ ∃ t, step s a = some t ∧ runSteps step t as = some u := by
  rw [runSteps_cons, Option.bind_eq_some_iff]

/-- A run in two parts. -/
theorem runSteps_append (s : σ) (as bs : List α) :
    runSteps step s (as ++ bs) = (runSteps step s as).bind (fun t => runSteps step t bs) := by
  induction as generalizing s with
  | nil => rfl
  | cons a as ih =>
    rw [List.cons_append, runSteps_cons, runSteps_cons, Option.bind_assoc]
    exact congrArg (Option.bind (step s a)) (funext ih)

/-- The first step of a run that meets `P` meets it, and so does the rest. -/
theorem stepsMeet_cons {s t : σ} {a : α} {as : List α} (ht : step s a = some t) :
    StepsMeet step P s (a :: as) ↔ P s a ∧ StepsMeet step P t as := by
  rw [StepsMeet, ht]

/-- What comes after the first part of a run that meets `P` meets it too. -/
theorem stepsMeet_of_append {s t : σ} {as bs : List α} (h : StepsMeet step P s (as ++ bs))
    (hr : runSteps step s as = some t) : StepsMeet step P t bs := by
  induction as generalizing s with
  | nil =>
    obtain rfl := Option.some.inj hr
    exact h
  | cons a as ih =>
    obtain ⟨u, hu, hrest⟩ := runSteps_cons_eq_some.mp hr
    exact ih ((stepsMeet_cons hu).mp h).2 hrest

/-- The first part of a run that meets `P` meets it. -/
theorem stepsMeet_left {s : σ}
    {as bs : List α} (h : StepsMeet step P s (as ++ bs)) : StepsMeet step P s as := by
  induction as generalizing s with
  | nil => trivial
  | cons a as ih =>
    refine ⟨h.1, ?_⟩
    have hrest := h.2
    cases hst : step s a with
    | none => trivial
    | some t =>
      rw [hst] at hrest
      exact ih hrest

/-- A condition that the actions of a run meet in any state is met along it. -/
theorem stepsMeet_of_forall_mem {as : List α} (h : ∀ a ∈ as, ∀ s, P s a) (s : σ) :
    StepsMeet step P s as := by
  induction as generalizing s with
  | nil => trivial
  | cons a as ih =>
    refine ⟨h a List.mem_cons_self s, ?_⟩
    cases step s a with
    | none => trivial
    | some t => exact ih (fun b hb => h b (List.mem_cons_of_mem _ hb)) t

/-- A condition that every step meets is met along every run. -/
theorem stepsMeet_of_forall (h : ∀ s a, P s a) (s : σ) (as : List α) :
    StepsMeet step P s as :=
  stepsMeet_of_forall_mem (fun a _ s => h s a) s

/-- Two conditions met along a run are met together. -/
theorem stepsMeet_and {Q : σ → α → Prop} {s : σ} {as : List α} (hP : StepsMeet step P s as)
    (hQ : StepsMeet step Q s as) : StepsMeet step (fun s a => P s a ∧ Q s a) s as := by
  induction as generalizing s with
  | nil => trivial
  | cons a as ih =>
    refine ⟨⟨hP.1, hQ.1⟩, ?_⟩
    have hP' := hP.2
    have hQ' := hQ.2
    cases hst : step s a with
    | none => trivial
    | some t =>
      rw [hst] at hP' hQ'
      exact ih hP' hQ'

/-- **The invariant rule.** What holds at the start and is kept by every step
that meets `P` holds at the end of every run whose steps meet `P`. -/
theorem inv_of_run {I : σ → Prop}
    (hstep : ∀ s a t, I s → P s a → step s a = some t → I t)
    {s u : σ} {as : List α} (hs : I s) (hP : StepsMeet step P s as)
    (hr : runSteps step s as = some u) : I u := by
  induction as generalizing s with
  | nil =>
    rw [runSteps_nil, Option.some.injEq] at hr
    exact hr ▸ hs
  | cons a as ih =>
    obtain ⟨t, ht, hu⟩ := runSteps_cons_eq_some.mp hr
    obtain ⟨hPa, hPas⟩ := (stepsMeet_cons ht).mp hP
    exact ih (hstep s a t hs hPa ht) hPas hu

/-- **The two-state rule.** A reflexive and transitive relation that every
step meeting `P` from an invariant state respects relates the two ends of
every run whose steps meet `P`. -/
theorem rel_of_run {I : σ → Prop} {R : σ → σ → Prop}
    (hrefl : ∀ s, R s s) (htrans : ∀ s t u, R s t → R t u → R s u)
    (hinv : ∀ s a t, I s → P s a → step s a = some t → I t)
    (hrel : ∀ s a t, I s → P s a → step s a = some t → R s t)
    {s u : σ} {as : List α} (hs : I s) (hP : StepsMeet step P s as)
    (hr : runSteps step s as = some u) : R s u := by
  induction as generalizing s with
  | nil =>
    rw [runSteps_nil, Option.some.injEq] at hr
    exact hr ▸ hrefl s
  | cons a as ih =>
    obtain ⟨t, ht, hu⟩ := runSteps_cons_eq_some.mp hr
    obtain ⟨hPa, hPas⟩ := (stepsMeet_cons ht).mp hP
    exact htrans s t u (hrel s a t hs hPa ht) (ih (hinv s a t hs hPa ht) hPas hu)
