import Pay3.Runs
import Mathlib.Algebra.Group.Nat.Defs
import Mathlib.Algebra.Order.Group.Nat

/-!
# The rate limiter

`FixedWindowRateLimiter` lets a number of requests through each minute. It has no lock: the
minute of the window and the counter are two atomics, and a call of `allow` that finds the
window of another minute exchanges it for its own and then, in a step of its own, stores 1 in
the counter. Calls run at the same time, and each may be delayed between any two of its steps.

A count is lost in two ways. A call that was let through between the exchange and the store
was counted in a counter that is overwritten, and so is every call of the window's minute when
the store comes late. And a call that read the clock before the minute changed exchanges the
window back, so that a later one opens the same minute again. In every run whose steps lose no
count, no minute has more calls let through than the limit
(`LimiterState.allow_within_limit`). But whatever the limit is, as many calls can overtake the
one that opens a minute, and all of them are let through (`LimiterState.exists_exceeded`).
-/

/-! ## One call -/

/-- `FixedWindowRateLimiter`. -/
structure FixedWindowRateLimiter where
  limitPerMinute : ℕ
  currentWindowMinute : ℕ
  counter : ℕ
  deriving DecidableEq

/-- **Where a call of `allow` is**, between two of its steps. -/
inductive AllowPc
  /-- The clock is to be read. -/
  | entered
  /-- The window is to be loaded. -/
  | loading (nowMinute : ℕ)
  | exchanging (cur nowMinute : ℕ)
  /-- The window is exchanged, and 1 is to be stored. -/
  | storing (nowMinute : ℕ)
  | adding (nowMinute : ℕ)
  /-- The counter is raised, and the window is to be loaded again. -/
  | rechecking (prev nowMinute : ℕ)
  | returned (nowMinute : Option ℕ) (allowed : Bool)
  deriving DecidableEq

namespace FixedWindowRateLimiter

/-- `per_minute`. -/
def perMinute (limitPerMinute currentMinute : ℕ) : FixedWindowRateLimiter :=
  ⟨limitPerMinute, currentMinute, 0⟩

/-- **One step of `allow`**: what it does to the atomics, and where it goes. A weak exchange
may fail for no reason. -/
def allowStep (limiter : FixedWindowRateLimiter) (clock : ℕ) (spurious : Bool) :
    AllowPc → FixedWindowRateLimiter × AllowPc
  | .entered =>
    if limiter.limitPerMinute = 0 then (limiter, .returned none false)
    else (limiter, .loading clock)
  | .loading nowMinute =>
    let cur := limiter.currentWindowMinute
    if cur ≠ nowMinute then (limiter, .exchanging cur nowMinute) else (limiter, .adding nowMinute)
  | .exchanging cur nowMinute =>
    if limiter.currentWindowMinute = cur ∧ spurious = false then
      ({ limiter with currentWindowMinute := nowMinute }, .storing nowMinute)
    else (limiter, .loading nowMinute)
  | .storing nowMinute => ({ limiter with counter := 1 }, .returned (some nowMinute) true)
  | .adding nowMinute =>
    -- `fetch_add` wraps around
    ({ limiter with counter := (limiter.counter + 1) % 2 ^ 32 },
      .rechecking limiter.counter nowMinute)
  | .rechecking prev nowMinute =>
    if limiter.currentWindowMinute ≠ nowMinute then (limiter, .loading nowMinute)
    else (limiter, .returned (some nowMinute) (decide (prev < limiter.limitPerMinute)))
  | .returned nowMinute allowed => (limiter, .returned nowMinute allowed)

end FixedWindowRateLimiter

namespace AllowPc

/-- The call read this minute from the clock and returned true. -/
def allowedIn (minute : ℕ) : AllowPc → Bool
  | .returned (some nowMinute) allowed => allowed && decide (nowMinute = minute)
  | _ => false

/-- It did, or it will: it was counted below the limit, and its minute is the window. -/
def countedIn (limit window minute : ℕ) : AllowPc → Bool
  | .rechecking prev nowMinute =>
    decide (nowMinute = minute ∧ nowMinute = window ∧ prev < limit)
  | pc => pc.allowedIn minute

/-- **The call is let through**: it was counted, or it is about to store the first count. -/
def letThrough (limit window minute : ℕ) : AllowPc → Bool
  | .storing nowMinute => decide (nowMinute = minute)
  | pc => pc.countedIn limit window minute

end AllowPc

/-! ## All the calls -/

/-- The limiter, the clock and the calls. -/
structure LimiterState where
  limiter : FixedWindowRateLimiter
  clock : ℕ
  calls : List AllowPc
  deriving DecidableEq

/-- One step of the system. -/
inductive LimiterAction
  /-- A minute goes by. -/
  | tick
  /-- A call of `allow` begins. -/
  | allow
  /-- A call goes on. -/
  | step (i : ℕ) (spurious : Bool)
  deriving DecidableEq

namespace LimiterState

/-- A limiter that was just built. -/
def initial (limitPerMinute currentMinute : ℕ) : LimiterState :=
  ⟨.perMinute limitPerMinute currentMinute, currentMinute, []⟩

/-- **One step of the system.** -/
def step (s : LimiterState) : LimiterAction → Option LimiterState
  | .tick => some { s with clock := s.clock + 1 }
  | .allow => some { s with calls := s.calls ++ [.entered] }
  | .step i spurious =>
    (s.calls[i]?).map (fun pc =>
      let (limiter, pc') := s.limiter.allowStep s.clock spurious pc
      { s with limiter := limiter, calls := s.calls.set i pc' })

/-- The calls of a minute that returned true. -/
def allowed (s : LimiterState) (minute : ℕ) : ℕ := s.calls.countP (AllowPc.allowedIn minute)

/-- The calls of a minute that were let through, with a window. -/
def letThrough (s : LimiterState) (window minute : ℕ) : ℕ :=
  s.calls.countP (AllowPc.letThrough s.limiter.limitPerMinute window minute)

/-- **What is asked of a step of a call.** It opens a minute no call of which was let through.
It stores 1 when at most one call was let through, itself included, of its own minute and of the
minute that is the window by then. The counter does not wrap. -/
def CallKeepsCount (s : LimiterState) (spurious : Bool) : AllowPc → Prop
  | .exchanging cur nowMinute =>
    s.limiter.currentWindowMinute = cur → spurious = false → s.letThrough nowMinute nowMinute = 0
  | .storing nowMinute =>
    s.letThrough s.limiter.currentWindowMinute nowMinute ≤ 1
      ∧ s.letThrough s.limiter.currentWindowMinute s.limiter.currentWindowMinute ≤ 1
  | .adding _ => s.limiter.counter + 1 < 2 ^ 32
  | _ => True

/-- **The step loses no count.** -/
def KeepsCount (s : LimiterState) : LimiterAction → Prop
  | .step i spurious => ∀ pc ∈ s.calls[i]?, s.CallKeepsCount spurious pc
  | _ => True

instance (s : LimiterState) (spurious : Bool) : ∀ pc, Decidable (s.CallKeepsCount spurious pc)
  | .entered => inferInstanceAs (Decidable True)
  | .loading _ => inferInstanceAs (Decidable True)
  | .exchanging _ _ => inferInstanceAs (Decidable (_ → _ → _))
  | .storing _ => inferInstanceAs (Decidable (_ ∧ _))
  | .adding _ => inferInstanceAs (Decidable (_ < _))
  | .rechecking _ _ => inferInstanceAs (Decidable True)
  | .returned _ _ => inferInstanceAs (Decidable True)

instance (s : LimiterState) : ∀ action, Decidable (s.KeepsCount action)
  | .tick => inferInstanceAs (Decidable True)
  | .allow => inferInstanceAs (Decidable True)
  | .step _ _ => inferInstanceAs (Decidable (∀ _ ∈ _, _))

/-! ## No minute has more than the limit -/

/-- The calls of a minute that were counted. -/
def counted (s : LimiterState) (minute : ℕ) : ℕ :=
  s.calls.countP
    (AllowPc.countedIn s.limiter.limitPerMinute s.limiter.currentWindowMinute minute)

/-- **The invariant**: no minute has more calls counted than the limit, and the counter is at
least the number of those of the window's minute. -/
structure Within (s : LimiterState) : Prop where
  limit : ∀ minute, s.counted minute ≤ s.limiter.limitPerMinute
  counter : s.counted s.limiter.currentWindowMinute ≤ s.limiter.counter

end LimiterState

section Counts

variable {α : Type} {p : α → Bool} {l : List α} {i : ℕ} {a : α}

/-- One element of a list is replaced, and the others are counted as before. -/
theorem countP_set_add (h : l[i]? = some a) (b : α) :
    (l.set i b).countP p + (if p a then 1 else 0) = l.countP p + (if p b then 1 else 0) := by
  obtain ⟨hi, rfl⟩ := List.getElem?_eq_some_iff.mp h
  have hle : (if p l[i] then 1 else 0) ≤ l.countP p := by
    split_ifs with hp
    · exact List.countP_pos_iff.mpr ⟨l[i], List.getElem_mem hi, hp⟩
    · exact Nat.zero_le _
  rw [List.countP_set hi]
  omega

theorem countP_set_of_eq (h : l[i]? = some a) (b : α) (hab : p a = p b) :
    (l.set i b).countP p = l.countP p := by
  have hset := countP_set_add (p := p) h b
  rw [hab] at hset
  exact Nat.add_right_cancel hset

end Counts

namespace AllowPc

variable {limit window minute : ℕ} {pc : AllowPc}

theorem countedIn_of_allowedIn (h : pc.allowedIn minute = true) :
    pc.countedIn limit window minute = true := by
  cases pc with
  | returned => exact h
  | _ => cases h

theorem letThrough_of_countedIn (h : pc.countedIn limit window minute = true) :
    pc.letThrough limit window minute = true := by
  cases pc with
  | storing => cases h
  | _ => exact h

/-- A call that is counted under a new window is of the new window's minute, or was counted
before. -/
theorem countedIn_of_ne {window' : ℕ} (hne : minute ≠ window')
    (h : pc.countedIn limit window' minute = true) : pc.countedIn limit window minute = true := by
  cases pc with
  | rechecking prev nowMinute =>
    obtain ⟨rfl, hwindow, -⟩ := of_decide_eq_true h
    exact absurd hwindow hne
  | _ => exact h

end AllowPc

namespace LimiterState

variable {s t : LimiterState}

theorem allowed_le_counted (s : LimiterState) (minute : ℕ) : s.allowed minute ≤ s.counted minute :=
  List.countP_mono_left (fun _ _ => AllowPc.countedIn_of_allowedIn)

theorem counted_le_letThrough (s : LimiterState) (minute : ℕ) :
    s.counted minute ≤ s.letThrough s.limiter.currentWindowMinute minute :=
  List.countP_mono_left (fun _ _ => AllowPc.letThrough_of_countedIn)

theorem within_initial (limit minute : ℕ) : (initial limit minute).Within :=
  ⟨fun _ => Nat.zero_le _, Nat.zero_le _⟩

/-- A step that leaves the atomics alone and counts the call as before. -/
theorem Within.goOn {i : ℕ} {pc pc' : AllowPc} (h : s.Within) (hpc : s.calls[i]? = some pc)
    (hsame : ∀ minute, pc.countedIn s.limiter.limitPerMinute s.limiter.currentWindowMinute minute
      = pc'.countedIn s.limiter.limitPerMinute s.limiter.currentWindowMinute minute) :
    ({ s with calls := s.calls.set i pc' } : LimiterState).Within := by
  have hcounted : ∀ minute,
      ({ s with calls := s.calls.set i pc' } : LimiterState).counted minute = s.counted minute :=
    fun minute => countP_set_of_eq hpc pc' (hsame minute)
  refine ⟨fun minute => ?_, ?_⟩
  · rw [hcounted]
    exact h.limit minute
  · rw [hcounted]
    exact h.counter

/-- A call opens a minute. -/
theorem Within.exchange {i cur nowMinute : ℕ} (h : s.Within)
    (hpc : s.calls[i]? = some (.exchanging cur nowMinute))
    (hnew : s.letThrough nowMinute nowMinute = 0) :
    ({ s with
      limiter := { s.limiter with currentWindowMinute := nowMinute }
      calls := s.calls.set i (.storing nowMinute) } : LimiterState).Within := by
  have hopened : (s.calls.set i (.storing nowMinute)).countP
      (AllowPc.countedIn s.limiter.limitPerMinute nowMinute nowMinute) = 0 := by
    rw [countP_set_of_eq hpc (.storing nowMinute) rfl]
    exact Nat.le_zero.mp (hnew ▸ List.countP_mono_left (fun _ _ => AllowPc.letThrough_of_countedIn))
  refine ⟨fun minute => ?_, ?_⟩
  · show (s.calls.set i (.storing nowMinute)).countP
      (AllowPc.countedIn s.limiter.limitPerMinute nowMinute minute) ≤ _
    by_cases hminute : minute = nowMinute
    · rw [hminute, hopened]
      exact Nat.zero_le _
    · rw [countP_set_of_eq hpc (.storing nowMinute) rfl]
      exact (List.countP_mono_left (fun _ _ => AllowPc.countedIn_of_ne hminute)).trans
        (h.limit minute)
  · exact hopened.trans_le (Nat.zero_le _)

/-- A call stores 1. -/
theorem Within.store {i nowMinute : ℕ} (h : s.Within) (hlimit : 1 ≤ s.limiter.limitPerMinute)
    (hpc : s.calls[i]? = some (.storing nowMinute))
    (hown : s.letThrough s.limiter.currentWindowMinute nowMinute ≤ 1)
    (hwindow : s.letThrough s.limiter.currentWindowMinute s.limiter.currentWindowMinute ≤ 1) :
    ({ s with
      limiter := { s.limiter with counter := 1 }
      calls := s.calls.set i (.returned (some nowMinute) true) } : LimiterState).Within := by
  set t : LimiterState := { s with
    limiter := { s.limiter with counter := 1 }
    calls := s.calls.set i (.returned (some nowMinute) true) } with ht
  -- the call was let through before the step and is counted after it
  have hthrough : ∀ minute, t.counted minute
      ≤ s.letThrough s.limiter.currentWindowMinute minute := by
    intro minute
    refine (counted_le_letThrough t minute).trans (le_of_eq (countP_set_of_eq hpc _ ?_))
    simp only [AllowPc.letThrough, AllowPc.countedIn, AllowPc.allowedIn, Bool.true_and]
  refine ⟨fun minute => ?_, (hthrough _).trans hwindow⟩
  by_cases hminute : minute = nowMinute
  · rw [hminute]
    exact ((hthrough nowMinute).trans hown).trans hlimit
  · have hsame : t.counted minute = s.counted minute := by
      refine countP_set_of_eq hpc _ ?_
      simp only [AllowPc.countedIn, AllowPc.allowedIn, Bool.true_and]
      exact (decide_eq_false (Ne.symm hminute)).symm
    rw [hsame]
    exact h.limit minute

/-- A call raises the counter. -/
theorem Within.add {i nowMinute : ℕ} (h : s.Within)
    (hpc : s.calls[i]? = some (.adding nowMinute)) :
    ({ s with
      limiter := { s.limiter with counter := s.limiter.counter + 1 }
      calls := s.calls.set i (.rechecking s.limiter.counter nowMinute) } : LimiterState).Within := by
  set t : LimiterState := { s with
    limiter := { s.limiter with counter := s.limiter.counter + 1 }
    calls := s.calls.set i (.rechecking s.limiter.counter nowMinute) } with ht
  have hcounted : ∀ minute, t.counted minute = s.counted minute
      + if nowMinute = minute ∧ nowMinute = s.limiter.currentWindowMinute
        ∧ s.limiter.counter < s.limiter.limitPerMinute then 1 else 0 := by
    intro minute
    have hset := countP_set_add (p := AllowPc.countedIn s.limiter.limitPerMinute
      s.limiter.currentWindowMinute minute) hpc (.rechecking s.limiter.counter nowMinute)
    simp only [AllowPc.countedIn, AllowPc.allowedIn, Bool.false_eq_true, if_false, Nat.add_zero,
      decide_eq_true_eq] at hset
    exact hset
  have hcounter := h.counter
  refine ⟨fun minute => ?_, ?_⟩
  · rw [hcounted]
    split_ifs with hnow
    · obtain ⟨rfl, hwindow, hbelow⟩ := hnow
      rw [← hwindow] at hcounter
      exact (Nat.succ_le_succ hcounter).trans hbelow
    · exact h.limit minute
  · rw [hcounted]
    refine Nat.add_le_add hcounter ?_
    split_ifs
    · exact le_rfl
    · exact Nat.zero_le 1

/-- **A step that loses no count keeps every minute within the limit.** -/
theorem Within.step {action : LimiterAction} (h : s.Within) (hlimit : 1 ≤ s.limiter.limitPerMinute)
    (hkeeps : s.KeepsCount action) (ht : s.step action = some t) : t.Within := by
  cases action with
  | tick =>
    obtain rfl := Option.some.inj ht
    exact ⟨h.limit, h.counter⟩
  | allow =>
    obtain rfl := Option.some.inj ht
    have hcounted : ∀ minute, ({ s with calls := s.calls ++ [.entered] } : LimiterState).counted minute
        = s.counted minute := fun minute => List.countP_append
    refine ⟨fun minute => ?_, ?_⟩
    · rw [hcounted]
      exact h.limit minute
    · rw [hcounted]
      exact h.counter
  | step i spurious =>
    obtain ⟨pc, hpc, rfl⟩ := Option.map_eq_some_iff.mp ht
    have hkeeps := hkeeps pc hpc
    cases pc with
    | entered =>
      simp only [FixedWindowRateLimiter.allowStep, if_neg (Nat.ne_of_gt hlimit)]
      exact h.goOn hpc (fun _ => rfl)
    | loading nowMinute =>
      simp only [FixedWindowRateLimiter.allowStep]
      split_ifs <;> exact h.goOn hpc (fun _ => rfl)
    | exchanging cur nowMinute =>
      simp only [FixedWindowRateLimiter.allowStep]
      split_ifs with hwon
      · exact h.exchange hpc (hkeeps hwon.1 hwon.2)
      · exact h.goOn hpc (fun _ => rfl)
    | storing nowMinute => exact h.store hlimit hpc hkeeps.1 hkeeps.2
    | adding nowMinute =>
      simp only [FixedWindowRateLimiter.allowStep, Nat.mod_eq_of_lt hkeeps]
      exact h.add hpc
    | rechecking prev nowMinute =>
      simp only [FixedWindowRateLimiter.allowStep]
      split_ifs with hmoved
      · -- the window has moved on, so the call was not counted
        exact h.goOn hpc (fun minute => decide_eq_false (fun hin => hmoved hin.2.1.symm))
      · refine h.goOn hpc (fun minute => ?_)
        rw [not_ne_iff] at hmoved
        simp only [AllowPc.countedIn, AllowPc.allowedIn, hmoved, true_and, ← Bool.decide_and]
        exact decide_eq_decide.mpr And.comm
    | returned nowMinute answer => exact h.goOn hpc (fun _ => rfl)

/-- No step changes the limit. -/
theorem limitPerMinute_step {action : LimiterAction} (ht : s.step action = some t) :
    t.limiter.limitPerMinute = s.limiter.limitPerMinute := by
  cases action with
  | tick | allow =>
    obtain rfl := Option.some.inj ht
    rfl
  | step i spurious =>
    obtain ⟨pc, -, rfl⟩ := Option.map_eq_some_iff.mp ht
    cases pc <;> simp only [FixedWindowRateLimiter.allowStep] <;> split_ifs <;> rfl

/-- **At most `limit` calls of a minute return true**, in every run whose steps lose no count. -/
theorem allow_within_limit (limit start : ℕ) (actions : List LimiterAction) (t : LimiterState)
    (hlimit : 1 ≤ limit) (hkeeps : StepsMeet step KeepsCount (initial limit start) actions)
    (hrun : runSteps step (initial limit start) actions = some t) (minute : ℕ) :
    t.allowed minute ≤ limit := by
  obtain ⟨hwithin, hkept⟩ := inv_of_run
    (I := fun s => s.Within ∧ s.limiter.limitPerMinute = limit)
    (fun s _ _ h hP ht => ⟨h.1.step (h.2 ▸ hlimit) hP ht, (limitPerMinute_step ht).trans h.2⟩)
    ⟨within_initial limit start, rfl⟩ hkeeps hrun
  exact (allowed_le_counted t minute).trans (hkept ▸ hwithin.limit minute)

end LimiterState

/-! ## Every limit is exceeded -/

namespace LimiterState

/-- A step of one call among the others. -/
theorem step_at {s : LimiterState} {front back : List AllowPc} {pc : AllowPc}
    (h : s.calls = front ++ pc :: back) :
    s.step (.step front.length false) = some { s with
      limiter := (s.limiter.allowStep s.clock false pc).1
      calls := front ++ (s.limiter.allowStep s.clock false pc).2 :: back } := by
  simp [LimiterState.step, h]

theorem runSteps_allow (s : LimiterState) (n : ℕ) :
    runSteps step s (List.replicate n .allow)
      = some { s with calls := s.calls ++ List.replicate n .entered } := by
  induction n generalizing s with
  | zero => simp
  | succ n ih =>
    rw [List.replicate_succ, runSteps_cons]
    refine (ih _).trans ?_
    simp [List.replicate_succ]

/-- A call among others, in a minute that is the window. -/
def inWindow (limit minute counter : ℕ) (front back : List AllowPc) (pc : AllowPc) : LimiterState :=
  ⟨⟨limit, minute, counter⟩, minute, front ++ pc :: back⟩

/-- **A call that begins while the counter is below the limit** is let through. -/
theorem runSteps_below {limit minute counter : ℕ} {front back : List AllowPc}
    (h : counter < limit) :
    runSteps step (inWindow limit minute counter front back .entered)
        (List.replicate 4 (.step front.length false))
      = some (inWindow limit minute ((counter + 1) % 2 ^ 32) front back
          (.returned (some minute) true)) := by
  have hread : (inWindow limit minute counter front back .entered).step (.step front.length false)
      = some (inWindow limit minute counter front back (.loading minute)) := by
    rw [step_at rfl]
    simp [inWindow, FixedWindowRateLimiter.allowStep, show limit ≠ 0 by omega]
  have hload : (inWindow limit minute counter front back (.loading minute)).step
      (.step front.length false)
      = some (inWindow limit minute counter front back (.adding minute)) := by
    rw [step_at rfl]
    simp [inWindow, FixedWindowRateLimiter.allowStep]
  have hadd : (inWindow limit minute counter front back (.adding minute)).step
      (.step front.length false)
      = some (inWindow limit minute ((counter + 1) % 2 ^ 32) front back
          (.rechecking counter minute)) := by
    rw [step_at rfl]
    rfl
  have hcheck : (inWindow limit minute ((counter + 1) % 2 ^ 32) front back
      (.rechecking counter minute)).step (.step front.length false)
      = some (inWindow limit minute ((counter + 1) % 2 ^ 32) front back
          (.returned (some minute) true)) := by
    rw [step_at rfl]
    simp [inWindow, FixedWindowRateLimiter.allowStep, h]
  simp only [List.replicate, runSteps_cons, runSteps_nil, hread, hload, hadd, hcheck,
    Option.bind_some]

/-- A call has exchanged the window and `k` of the others have overtaken it, all let through. -/
def overtaken (limit start k n : ℕ) : LimiterState :=
  ⟨⟨limit, start + 1, k % 2 ^ 32⟩, start + 1, .storing (start + 1)
    :: (List.replicate k (.returned (some (start + 1)) true) ++ List.replicate n .entered)⟩

/-- As many overtake it as the limit is. -/
theorem runSteps_overtaken {limit start : ℕ} (n : ℕ) :
    ∀ k, k + n = limit → runSteps step (overtaken limit start k n)
        ((List.range' (k + 1) n).flatMap (fun i => List.replicate 4 (.step i false)))
      = some (overtaken limit start limit 0) := by
  induction n with
  | zero =>
    rintro k rfl
    rfl
  | succ n ih =>
    intro k hk
    set front : List AllowPc :=
      .storing (start + 1) :: List.replicate k (.returned (some (start + 1)) true) with hfront
    have hlength : front.length = k + 1 := by simp [hfront]
    have hbelow : k % 2 ^ 32 < limit := lt_of_le_of_lt (Nat.mod_le k _) (by omega)
    have hbefore : overtaken limit start k (n + 1)
        = inWindow limit (start + 1) (k % 2 ^ 32) front (List.replicate n .entered) .entered := by
      simp [overtaken, inWindow, hfront, List.replicate_succ]
    have hafter : inWindow limit (start + 1) ((k % 2 ^ 32 + 1) % 2 ^ 32) front
        (List.replicate n .entered) (.returned (some (start + 1)) true)
          = overtaken limit start (k + 1) n := by
      simp [overtaken, inWindow, hfront, List.replicate_succ']
    rw [List.range'_succ, List.flatMap_cons, runSteps_append, hbefore, ← hlength,
      runSteps_below hbelow, Option.bind_some, hafter, hlength]
    exact ih (k + 1) (by omega)

/-- A call opens a minute, the others overtake it, and it stores its count. -/
def overtaking (limit : ℕ) : List LimiterAction :=
  .tick :: (List.replicate (limit + 1) .allow ++ (List.replicate 3 (.step 0 false)
    ++ ((List.range' 1 limit).flatMap (fun i => List.replicate 4 (.step i false)) ++ [.step 0 false])))

/-- **Every limit is exceeded** in some run. -/
theorem exists_exceeded (limit start : ℕ) (hlimit : 1 ≤ limit) :
    ∃ t, runSteps step (initial limit start) (overtaking limit) = some t
      ∧ t.allowed (start + 1) = limit + 1 := by
  have hallow : runSteps step (initial limit start)
      (.tick :: List.replicate (limit + 1) .allow)
      = some ⟨⟨limit, start, 0⟩, start + 1, List.replicate (limit + 1) .entered⟩ :=
    (runSteps_allow _ _).trans (by simp [initial, FixedWindowRateLimiter.perMinute])
  have hopen : runSteps step ⟨⟨limit, start, 0⟩, start + 1, List.replicate (limit + 1) .entered⟩
      (List.replicate 3 (.step 0 false)) = some (overtaken limit start 0 limit) := by
    have hpos : limit ≠ 0 := by omega
    simp [List.replicate_succ, runSteps, LimiterState.step, FixedWindowRateLimiter.allowStep,
      overtaken, hpos]
  have hstore : runSteps step (overtaken limit start limit 0) [.step 0 false]
      = some ⟨⟨limit, start + 1, 1⟩, start + 1,
          List.replicate (limit + 1) (.returned (some (start + 1)) true)⟩ := by
    simp [List.replicate_succ, runSteps, LimiterState.step, FixedWindowRateLimiter.allowStep,
      overtaken]
  have hrun : runSteps step (initial limit start) (overtaking limit)
      = some ⟨⟨limit, start + 1, 1⟩, start + 1,
          List.replicate (limit + 1) (.returned (some (start + 1)) true)⟩ := by
    unfold overtaking
    rw [← List.cons_append, runSteps_append, hallow, Option.bind_some, runSteps_append, hopen,
      Option.bind_some, runSteps_append, runSteps_overtaken limit 0 (Nat.zero_add limit),
      Option.bind_some]
    exact hstore
  exact ⟨_, hrun, List.countP_replicate.trans (if_pos (by simp [AllowPc.allowedIn]))⟩

end LimiterState

/-! ## Two calls open a minute -/

namespace LimiterState

/-- The first call opens the minute and stores its count before the second one goes on. -/
def oneByOne : List LimiterAction :=
  [.tick, .allow, .allow] ++ List.replicate 4 (.step 0 false) ++ List.replicate 4 (.step 1 false)

/-- The second call is not let through. -/
theorem allow_within_limit_of_oneByOne :
    ∃ t, runSteps step (initial 1 0) oneByOne = some t ∧ t.allowed 1 ≤ 1
      ∧ t.calls = [.returned (some 1) true, .returned (some 1) false] := by
  have hend : (runSteps step (initial 1 0) oneByOne).map LimiterState.calls
      = some [.returned (some 1) true, .returned (some 1) false] := by decide +kernel
  obtain ⟨t, ht, hcalls⟩ := Option.map_eq_some_iff.mp hend
  exact ⟨t, ht, allow_within_limit 1 0 oneByOne t (le_refl 1) (by decide +kernel) ht 1, hcalls⟩

/-- **Both are**, with a limit of one, when the second overtakes the first between the exchange
and the store. -/
theorem two_allowed_of_one :
    ¬ ∀ (limit start : ℕ) (actions : List LimiterAction) (t : LimiterState), 1 ≤ limit →
      runSteps step (initial limit start) actions = some t → ∀ minute, t.allowed minute ≤ limit := by
  intro hall
  have hend : (runSteps step (initial 1 0) (overtaking 1)).map (fun t => t.allowed 1) = some 2 := by
    decide +kernel
  obtain ⟨t, ht, hallowed⟩ := Option.map_eq_some_iff.mp hend
  have hle := hall 1 0 (overtaking 1) t (le_refl 1) ht 1
  omega

end LimiterState
