import Mathlib.Logic.Function.Basic
import Mathlib.Data.List.Basic

/-!
# Requests that do not see each other

Requests of many domains run over one shared state. A request is a **program**:
it makes calls, each an atomic step on the state that answers something, and
ends with a result. Any number of them run at a time, and between two calls of
one any calls of the others may come.

The state has a **part** for each domain, which is again a state. A call is
confined to a domain (`CallConfined`) when, on the part of the domain, it
answers what it answers on the whole and leaves there what it leaves on the
whole, and when it leaves the parts of the other domains as they are. What it
may rely on is an invariant of the state, and what its program may rely on
afterwards is a property of the answer.

If every program is confined to the domain it runs for, each domain is served as
if it was alone: its requests, run on its part of the state with nothing in
between, get the same results (`results_alone`). Nothing of the other domains is
left in that run, neither their requests nor their part of the state.

Programs are written in the monad `Program σ`, over `ExceptT` where they can
fail; `confined_bind` and its companions go through them step by step.
-/

variable {σ δ κ ρ ρ' β : Type}

/-- **A program over a shared state**: it has its result, or it makes a call and
goes on with the answer. -/
inductive Program (σ ρ : Type) : Type 1
  | result (value : ρ)
  | call {β : Type} (act : σ → β × σ) (rest : β → Program σ ρ)

namespace Program

/-- One program after another. -/
def bind (p : Program σ ρ) (f : ρ → Program σ ρ') : Program σ ρ' :=
  match p with
  | .result value => f value
  | .call act rest => .call act (fun answer => (rest answer).bind f)

instance : Monad (Program σ) where
  pure := .result
  bind := .bind

/-- A single call. -/
def ask (act : σ → β × σ) : Program σ β := .call act .result

/-- A call that only reads. -/
def read (f : σ → β) : Program σ β := ask (fun s => (f s, s))

/-- A transaction: it commits what it answers with, and is rolled back when it
fails. -/
def transaction {ε : Type} (f : σ → Except ε (β × σ)) : Program σ (Except ε β) :=
  ask (fun s =>
    match f s with
    | .ok (answer, s') => (.ok answer, s')
    | .error e => (.error e, s))

end Program

/-! ## Confinement -/

section Confinement

variable (part : δ → σ → σ) (I : σ → Prop) (d : δ)

/-- **A call confined to a domain**, under an invariant. -/
structure CallConfined (act : σ → β × σ) (R : β → Prop) : Prop where
  /-- The invariant is kept. -/
  keeps : ∀ s, I s → I (act s).2
  /-- The answer has the property. -/
  answers : ∀ s, I s → R (act s).1
  /-- On the part of the domain it is the same call. -/
  own : ∀ s, I s → act (part d s) = ((act s).1, part d (act s).2)
  /-- The other parts are left alone. -/
  others : ∀ s e, I s → e ≠ d → part e (act s).2 = part e s

/-- **A program confined to a domain**: all its calls are, and its result has the
property. -/
def Program.Confined (Q : ρ → Prop) : Program σ ρ → Prop
  | .result value => Q value
  | .call act rest => ∃ R, CallConfined part I d act R ∧ ∀ answer, R answer →
      (rest answer).Confined Q

end Confinement

section Rules

variable {part : δ → σ → σ} {I : σ → Prop} {d : δ} {Q : ρ → Prop} {Q' : ρ' → Prop}

/-- A call that only reads is confined if it reads the part of its domain. -/
theorem CallConfined.of_read {f : σ → β} {R : β → Prop} (hown : ∀ s, I s → f (part d s) = f s)
    (hR : ∀ s, I s → R (f s)) : CallConfined part I d (fun s => (f s, s)) R where
  keeps _ hs := hs
  answers := hR
  own s hs := by
    show (f (part d s), part d s) = (f s, part d s)
    rw [hown s hs]
  others _ _ _ _ := rfl

/-- **A transaction is confined** if on the part of its domain it fails as on the
whole, or commits the part of what it commits on the whole, and what it commits
leaves the other parts alone. -/
theorem CallConfined.of_transaction {ε : Type} {f : σ → Except ε (β × σ)}
    {R : Except ε β → Prop} (hkeeps : ∀ s b s', I s → f s = .ok (b, s') → I s')
    (hok : ∀ s b s', I s → f s = .ok (b, s') → R (.ok b)) (herror : ∀ e, R (.error e))
    (hown : ∀ s, I s → f (part d s) = (fun x => (x.1, part d x.2)) <$> f s)
    (hothers : ∀ s b s' e, I s → f s = .ok (b, s') → e ≠ d → part e s' = part e s) :
    CallConfined part I d (fun s =>
      match f s with
      | .ok (answer, s') => (Except.ok answer, s')
      | .error e => (.error e, s)) R where
  keeps s hs := by
    cases hf : f s with
    | error e => exact hs
    | ok x => exact hkeeps s x.1 x.2 hs hf
  answers s hs := by
    cases hf : f s with
    | error e => exact herror e
    | ok x => exact hok s x.1 x.2 hs hf
  own s hs := by
    rw [hown s hs]
    cases hf : f s with
    | error e => rfl
    | ok x => rfl
  others s e hs he := by
    cases hf : f s with
    | error e => rfl
    | ok x => exact hothers s x.1 x.2 e hs hf he

namespace Program

theorem Confined.mono {p : Program σ ρ} {R : ρ → Prop} (h : p.Confined part I d Q)
    (hQ : ∀ value, Q value → R value) : p.Confined part I d R := by
  induction p with
  | result value => exact hQ value h
  | call act rest ih =>
    obtain ⟨S, hact, hrest⟩ := h
    exact ⟨S, hact, fun answer hS => ih answer (hrest answer hS)⟩

/-- Confined programs one after the other. -/
theorem Confined.bind {p : Program σ ρ} {f : ρ → Program σ ρ'} (h : p.Confined part I d Q)
    (hf : ∀ value, Q value → (f value).Confined part I d Q') :
    (p >>= f).Confined part I d Q' := by
  induction p with
  | result value => exact hf value h
  | call act rest ih =>
    obtain ⟨S, hact, hrest⟩ := h
    exact ⟨S, hact, fun answer hS => ih answer (hrest answer hS)⟩

end Program

/-! ## Programs that can fail -/

section Failing

variable {ε ε' : Type} {α α' : Type} {P : α → Prop} {P' : α' → Prop}

/-- What holds of a result if there is one. -/
def IfOk (P : α → Prop) (x : Except ε α) : Prop := ∀ a, x = .ok a → P a

theorem ifOk_ok {a : α} (h : P a) : IfOk P (.ok a : Except ε α) :=
  fun _ ha => Except.ok.inj ha ▸ h

theorem ifOk_error (P : α → Prop) (e : ε) : IfOk P (.error e) := nofun

/-- **A failing program confined to a domain.** -/
structure Confined (part : δ → σ → σ) (I : σ → Prop) (d : δ) (P : α → Prop)
    (x : ExceptT ε (Program σ) α) : Prop where
  run : Program.Confined part I d (IfOk P) x.run

theorem confined_ok {a : α} (h : P a) :
    Confined part I d P (pure a : ExceptT ε (Program σ) α) := ⟨ifOk_ok h⟩

/-- **One failing program after another.** -/
theorem confined_bind {x : ExceptT ε (Program σ) α} {f : α → ExceptT ε (Program σ) α'}
    (hx : Confined part I d P x) (hf : ∀ a, P a → Confined part I d P' (f a)) :
    Confined part I d P' (x >>= f) := by
  refine ⟨Program.Confined.bind hx.run (fun r hr => ?_)⟩
  cases r with
  | error e => exact ifOk_error P' e
  | ok a => exact (hf a (hr a rfl)).run

/-- What was computed without a call. -/
theorem confined_ofExcept {x : Except ε α} (h : IfOk P x) :
    Confined part I d P (ExceptT.mk (pure x) : ExceptT ε (Program σ) α) := ⟨h⟩

/-- What is made of a result. -/
theorem confined_map {x : ExceptT ε (Program σ) α} {g : α → α'} (hx : Confined part I d P x)
    (hg : ∀ a, P a → P' (g a)) : Confined part I d P' (g <$> x) := by
  refine ⟨Program.Confined.bind hx.run (fun r hr => ?_)⟩
  cases r with
  | error e => exact ifOk_error P' e
  | ok a => exact ifOk_ok (hg a (hr a rfl))

/-- Another error. -/
theorem confined_adapt {x : ExceptT ε (Program σ) α} {g : ε → ε'}
    (hx : Confined part I d P x) : Confined part I d P (x.adapt g) := by
  refine ⟨Program.Confined.bind hx.run (fun r hr => ?_)⟩
  cases r with
  | error e => exact ifOk_error P (g e)
  | ok a => exact ifOk_ok (hr a rfl)

end Failing

end Rules

/-! ## Requests that run -/

/-- **The shared state and the programs that run on it**, for each domain by slot. -/
structure Served (σ δ ρ : Type) : Type 1 where
  state : σ
  running : δ → ℕ → Option (Program σ ρ)

/-- **What happens**: a request comes into a slot of its domain, where a request
that still runs is given up, or the request of a slot goes on by one call. -/
inductive ServedEvent (δ κ : Type)
  | request (d : δ) (i : ℕ) (r : κ)
  | goOn (d : δ) (i : ℕ)
  deriving DecidableEq

/-- Whose event it is. -/
def ServedEvent.domain : ServedEvent δ κ → δ
  | .request d _ _ | .goOn d _ => d

namespace Served

variable [DecidableEq δ]

/-- A slot with another program in it, or with none. -/
def setSlot (s : Served σ δ ρ) (d : δ) (i : ℕ) (p : Option (Program σ ρ)) : Served σ δ ρ :=
  { s with running := Function.update s.running d (Function.update (s.running d) i p) }

/-- The request of a slot ends, or makes its next call. -/
def goOn (s : Served σ δ ρ) (d : δ) (i : ℕ) : Option ρ × Served σ δ ρ :=
  match s.running d i with
  | none => (none, s)
  | some (.result value) => (some value, s.setSlot d i none)
  | some (.call act rest) =>
    (none, ⟨(act s.state).2, (s.setSlot d i (some (rest (act s.state).1))).running⟩)

/-- **One event**, with the result of the request if it ends. -/
def step (program : κ → Program σ ρ) (s : Served σ δ ρ) :
    ServedEvent δ κ → Option ρ × Served σ δ ρ
  | .request d i r => (none, s.setSlot d i (some (program r)))
  | .goOn d i => s.goOn d i

/-- What is there after a run. -/
def after (program : κ → Program σ ρ) (s : Served σ δ ρ) (es : List (ServedEvent δ κ)) :
    Served σ δ ρ := es.foldl (fun s e => (s.step program e).2) s

/-- **The results a domain is given** in a run, one entry to each of its events. -/
def results (program : κ → Program σ ρ) (d : δ) :
    Served σ δ ρ → List (ServedEvent δ κ) → List (Option ρ)
  | _, [] => []
  | s, e :: es =>
    (if e.domain = d then [(s.step program e).1] else [])
      ++ results program d (s.step program e).2 es

/-- **A domain alone**: its part of the state, and its programs. -/
def alone (part : δ → σ → σ) (d : δ) (s : Served σ δ ρ) : Served σ δ ρ where
  state := part d s.state
  running := Function.update (fun _ _ => none) d (s.running d)

/-- **Every program that runs is confined to its domain**, and the invariant
holds. -/
structure Confined (part : δ → σ → σ) (I : σ → Prop) (s : Served σ δ ρ) : Prop where
  state : I s.state
  running : ∀ d i p, s.running d i = some p → p.Confined part I d (fun _ => True)

/-- A request whose program is confined to the domain it comes for. -/
def Comes (part : δ → σ → σ) (I : σ → Prop) (program : κ → Program σ ρ) :
    ServedEvent δ κ → Prop
  | .request d _ r => (program r).Confined part I d (fun _ => True)
  | .goOn _ _ => True

section Steps

variable {part : δ → σ → σ} {I : σ → Prop} {program : κ → Program σ ρ} {s : Served σ δ ρ}

/-- A program that is in a slot after another was put into one. -/
theorem running_setSlot {d e : δ} {i j : ℕ} {p : Option (Program σ ρ)} {q : Program σ ρ}
    (h : (s.setSlot d i p).running e j = some q) :
    (e = d ∧ p = some q) ∨ s.running e j = some q := by
  unfold setSlot at h
  by_cases he : e = d
  · subst he
    dsimp only at h
    rw [Function.update_self] at h
    by_cases hj : j = i
    · rw [hj, Function.update_self] at h
      exact Or.inl ⟨rfl, h⟩
    · rw [Function.update_of_ne hj] at h
      exact Or.inr h
  · dsimp only at h
    rw [Function.update_of_ne he] at h
    exact Or.inr h

omit [DecidableEq δ] in
/-- The program of a call that was made goes on confined. -/
theorem Confined.rest (hs : s.Confined part I) {d : δ} {i : ℕ} {act : σ → β × σ}
    {rest : β → Program σ ρ} (hp : s.running d i = some (.call act rest)) :
    ∃ R, CallConfined part I d act R
      ∧ (rest (act s.state).1).Confined part I d (fun _ => True) := by
  obtain ⟨R, hact, hrest⟩ := hs.running d i _ hp
  exact ⟨R, hact, hrest _ (hact.answers _ hs.state)⟩

/-- A slot with a confined program. -/
theorem Confined.setSlot (hs : s.Confined part I) {d : δ} {i : ℕ} {p : Option (Program σ ρ)}
    (hp : ∀ q, p = some q → q.Confined part I d (fun _ => True)) :
    (s.setSlot d i p).Confined part I where
  state := hs.state
  running e j q hq := by
    obtain ⟨rfl, hpq⟩ | hq := running_setSlot hq
    · exact hp q hpq
    · exact hs.running e j q hq

section GoOn

variable {d : δ} {i : ℕ}

theorem goOn_of_none (h : s.running d i = none) : s.goOn d i = (none, s) := by
  unfold goOn
  rw [h]

theorem goOn_of_result {value : ρ} (h : s.running d i = some (.result value)) :
    s.goOn d i = (some value, s.setSlot d i none) := by
  unfold goOn
  rw [h]

theorem goOn_of_call {act : σ → β × σ} {rest : β → Program σ ρ}
    (h : s.running d i = some (.call act rest)) :
    s.goOn d i
      = (none, ⟨(act s.state).2, (s.setSlot d i (some (rest (act s.state).1))).running⟩) := by
  unfold goOn
  rw [h]

end GoOn

/-- Every event keeps all programs confined. -/
theorem Confined.step (hs : s.Confined part I) {e : ServedEvent δ κ}
    (he : Comes part I program e) : (s.step program e).2.Confined part I := by
  match e with
  | .request d i r => exact hs.setSlot (fun q hq => Option.some.inj hq ▸ he)
  | .goOn d i =>
    show (s.goOn d i).2.Confined part I
    match hp : s.running d i with
    | none =>
      rw [goOn_of_none hp]
      exact hs
    | some (.result value) =>
      rw [goOn_of_result hp]
      exact hs.setSlot nofun
    | some (.call act rest) =>
      rw [goOn_of_call hp]
      obtain ⟨R, hact, hrest⟩ := hs.rest hp
      have hslot : (s.setSlot d i (some (rest (act s.state).1))).Confined part I :=
        hs.setSlot (fun q hq => by rwa [← Option.some.inj hq])
      exact ⟨hact.keeps _ hs.state, hslot.running⟩

/-- **Every run keeps all programs confined.** -/
theorem Confined.after (hs : s.Confined part I) {es : List (ServedEvent δ κ)}
    (hes : ∀ e ∈ es, Comes part I program e) : (s.after program es).Confined part I := by
  induction es generalizing s with
  | nil => exact hs
  | cons e es ih =>
    exact ih (hs.step (hes e List.mem_cons_self))
      (fun e' he' => hes e' (List.mem_cons_of_mem e he'))

/-- A domain alone, when one of its slots is set. -/
theorem alone_setSlot_self (part : δ → σ → σ) (s : Served σ δ ρ) (d : δ) (i : ℕ)
    (p : Option (Program σ ρ)) :
    (s.setSlot d i p).alone part d = (s.alone part d).setSlot d i p := by
  simp only [setSlot, alone, Function.update_self, Function.update_idem]

/-- A domain alone, when a slot of another domain is set. -/
theorem alone_setSlot_of_ne (part : δ → σ → σ) (s : Served σ δ ρ) {d e : δ} (h : e ≠ d) (i : ℕ)
    (p : Option (Program σ ρ)) :
    (s.setSlot e i p).alone part d = s.alone part d := by
  simp only [setSlot, alone, Function.update_of_ne h.symm]

/-- The programs of a domain run when it is alone. -/
theorem running_alone (part : δ → σ → σ) (s : Served σ δ ρ) (d : δ) (i : ℕ) :
    (s.alone part d).running d i = s.running d i := by
  simp only [alone, Function.update_self]

/-- **An event of the domain** is the same event when the domain is alone. -/
theorem step_alone_self (program : κ → Program σ ρ) (hs : s.Confined part I)
    (e : ServedEvent δ κ) :
    (s.alone part e.domain).step program e
      = ((s.step program e).1, (s.step program e).2.alone part e.domain) := by
  match e with
  | .request d i r => exact Prod.ext rfl (alone_setSlot_self part s d i _).symm
  | .goOn d i =>
    have halone : (s.alone part d).running d i = s.running d i := running_alone part s d i
    show (s.alone part d).goOn d i = ((s.goOn d i).1, (s.goOn d i).2.alone part d)
    match hp : s.running d i with
    | none => rw [goOn_of_none hp, goOn_of_none (halone.trans hp)]
    | some (.result value) =>
      rw [goOn_of_result hp, goOn_of_result (halone.trans hp)]
      exact Prod.ext rfl (alone_setSlot_self part s d i none).symm
    | some (.call act rest) =>
      rw [goOn_of_call hp, goOn_of_call (halone.trans hp)]
      obtain ⟨R, hact, -⟩ := hs.rest hp
      have hown : act (s.alone part d).state = _ := hact.own s.state hs.state
      have hslot := congrArg Served.running
        (alone_setSlot_self part s d i (some (rest (act s.state).1)))
      rw [hown]
      exact Prod.ext rfl (congrArg (Served.mk _) hslot.symm)

/-- **An event of another domain** does nothing to a domain alone. -/
theorem step_alone_of_ne (program : κ → Program σ ρ) (hs : s.Confined part I) {d : δ}
    {e : ServedEvent δ κ} (h : e.domain ≠ d) :
    (s.step program e).2.alone part d = s.alone part d := by
  match e with
  | .request e i r => exact alone_setSlot_of_ne part s h i _
  | .goOn e i =>
    show (s.goOn e i).2.alone part d = s.alone part d
    match hp : s.running e i with
    | none => rw [goOn_of_none hp]
    | some (.result value) =>
      rw [goOn_of_result hp]
      exact alone_setSlot_of_ne part s h i none
    | some (.call act rest) =>
      rw [goOn_of_call hp]
      obtain ⟨R, hact, -⟩ := hs.rest hp
      have hpart : part d (act s.state).2 = part d s.state :=
        hact.others s.state d hs.state (Ne.symm h)
      have hslot := congrArg Served.running
        (alone_setSlot_of_ne part s h i (some (rest (act s.state).1)))
      show Served.mk (part d (act s.state).2) _ = Served.mk (part d s.state) _
      rw [hpart]
      exact congrArg (Served.mk _) hslot

/-- **A domain is served as if it was alone.** In every run of events whose
requests are confined to their domains, a domain gets the results that its own
events get on its part of the state, and its part at the end is what they leave
there. -/
theorem results_alone (hs : s.Confined part I) {es : List (ServedEvent δ κ)}
    (hes : ∀ e ∈ es, Comes part I program e) (d : δ) :
    s.results program d es
        = (s.alone part d).results program d (es.filter (fun e => decide (e.domain = d)))
      ∧ (s.after program es).alone part d
        = (s.alone part d).after program (es.filter (fun e => decide (e.domain = d))) := by
  induction es generalizing s with
  | nil => exact ⟨rfl, rfl⟩
  | cons e es ih =>
    have hstep := hs.step (hes e List.mem_cons_self)
    obtain ⟨hresults, hafter⟩ := ih hstep (fun e' he' => hes e' (List.mem_cons_of_mem e he'))
    by_cases he : e.domain = d
    · subst he
      rw [List.filter_cons_of_pos (by simp)]
      have halone := step_alone_self program hs e
      refine ⟨?_, ?_⟩
      · show (if _ then _ else _) ++ _ = (if _ then _ else _) ++ _
        rw [halone, if_pos rfl, hresults]
      · show ((s.step program e).2.after program es).alone part e.domain = _
        rw [hafter]
        show _ = Served.after program ((s.alone part e.domain).step program e).2 _
        rw [halone]
    · rw [List.filter_cons_of_neg (by simpa using he)]
      have halone := step_alone_of_ne program hs he
      refine ⟨?_, ?_⟩
      · show (if _ then _ else _) ++ _ = _
        rw [if_neg he, hresults, halone]
        rfl
      · show ((s.step program e).2.after program es).alone part d = _
        rw [hafter, halone]

end Steps

end Served
