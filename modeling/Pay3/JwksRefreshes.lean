import Pay3.AuthenticatedCalls

/-!
# When the keys are fetched

Anybody can send a token with a made up key name, and each of them could make
the verifier ask the provider again. It does not: whatever the interleaving,
there is one request for a call at a time, and the requests made for calls are a
cooldown apart, but for those whose answer was lost because the client went away
or the caller panicked (`JwksSystem.fetches_le_of_run`). The refresher of the
background counts as an answer, which only makes the calls wait longer.

The price is that a key can be unknown although the provider has it. A call is
refused for that only if the last answer, whether it brought keys or failed, is
less than a cooldown older than the call, or newer
(`JwksSystem.unknownKeyId_of_run`).

A lifetime so long that the clock cannot hold its end makes the caller panic
while it writes. This happens exactly when such a lifetime is announced with
keys, and afterwards no call gives a principal
(`JwksSystem.poisoned_iff_of_run`).
-/

variable {Key : Type}

namespace JwksSystem

/-! ## Requests, answers and overflows -/

/-- The time of the last answer the call `i` saw, if its request is out. -/
def seenAt (s : JwksSystem Key) (i : ℕ) : Option Instant := (s.calls[i]?).bind (fun c => c.pc.seen)

/-- The request of the call `i` is out. -/
def fetches (s : JwksSystem Key) (i : ℕ) : Bool := (s.seenAt i).isSome

variable (library : Jwt.Library Key) (v : JwtVerifier)

/-- The step sends a request for a call. -/
def startsFetch (s : JwksSystem Key) : JwksAction → Bool
  | .step i action => !s.fetches i && ((s.step library v (.step i action)).any (·.fetches i))
  | _ => false

/-- The step ends a request for a call without its answer being written: the client went away,
or the caller panicked. -/
def losesAnswer (s : JwksSystem Key) : JwksAction → Bool
  | .step i action => s.fetches i && ((s.step library v (.step i action)).any (fun t =>
      (t.calls[i]?).any (fun c => c.pc.lost)))
  | _ => false

/-- An answer with keys whose lifetime the clock cannot hold. -/
def outlastsClock (clock : Instant) :
    Except AuthError (VerificationKeys Key × ℕ) → Bool
  | .error _ => false
  | .ok (_, ttl) => decide (instantBound ≤ clock + ttl)

/-- The step is such an answer. -/
def overflows (config : RemoteJwksConfig) (s : JwksSystem Key) : JwksAction → Bool
  | .step _ (.answer answer) => outlastsClock s.clock (answer.fetched library config)
  | .refreshed answer => outlastsClock s.clock (answer.fetched library config)
  | _ => false

/-! ## The invariant -/

/-- **The invariant**: only the call that has the mutex is between it and its end, no answer is
of a later time, no call began later, and a request that is out was sent a cooldown after the
last answer its call saw. -/
structure Spaced (config : RemoteJwksConfig) (s : JwksSystem Key) : Prop where
  locked : ∀ (i : ℕ) (c : VerifyCall), s.calls[i]? = some c → c.pc.holdsLock = true →
    s.shared.refreshLock = some i
  refreshed : s.shared.state.lastRefresh ≤ s.clock
  entered : ∀ (i : ℕ) (c : VerifyCall), s.calls[i]? = some c → c.enteredAt ≤ s.clock
  waited : ∀ (i : ℕ) (seen : Instant), s.seenAt i = some seen →
    seen ≤ s.shared.state.lastRefresh ∧ seen + config.refreshCooldown ≤ s.clock

variable {library : Jwt.Library Key} {v : JwtVerifier} {config : RemoteJwksConfig}
  {s t u : JwksSystem Key}

theorem holdsLock_of_seen {pc : CallPc} {seen : Instant} (h : pc.seen = some seen) :
    pc.holdsLock = true := by
  cases pc <;> first | rfl | cases h

theorem seenAt_eq_some {i : ℕ} {seen : Instant} :
    s.seenAt i = some seen ↔ ∃ c, s.calls[i]? = some c ∧ c.pc.seen = some seen :=
  Option.bind_eq_some_iff

/-- The call whose request is out has the mutex. -/
theorem Spaced.lock_of_seenAt (hs : s.Spaced config) {i : ℕ} {seen : Instant}
    (h : s.seenAt i = some seen) : s.shared.refreshLock = some i := by
  obtain ⟨c, hc, hseen⟩ := seenAt_eq_some.mp h
  exact hs.locked i c hc (holdsLock_of_seen hseen)

/-- No request is out of a call that does not have the mutex. -/
theorem Spaced.seenAt_eq_none (hs : s.Spaced config) {i j : ℕ}
    (h : s.shared.refreshLock = some i) (hne : j ≠ i) : s.seenAt j = none := by
  cases hseen : s.seenAt j with
  | none => rfl
  | some seen => exact absurd (Option.some.inj ((hs.lock_of_seenAt hseen).symm.trans h)) hne

/-- One call moves, and the requests of the others are as they were. -/
theorem seenAt_set {i : ℕ} {c : VerifyCall} (shared' : JwksShared Key) (pc : CallPc)
    (hc : s.calls[i]? = some c) (j : ℕ) :
    ({ s with shared := shared', calls := s.calls.set i { c with pc := pc } } :
      JwksSystem Key).seenAt j = if j = i then pc.seen else s.seenAt j := by
  unfold seenAt
  dsimp only
  by_cases hji : j = i
  · subst hji
    rw [if_pos rfl, List.getElem?_set_self (List.getElem?_eq_some_iff.mp hc).1]
    rfl
  · rw [if_neg hji, List.getElem?_set_ne (Ne.symm hji)]

/-- A call that begins has no request out. -/
theorem seenAt_concat {authorization : Option String} {requiredScope : String}
    {enteredAt : Instant} (j : ℕ) :
    ({ s with calls := s.calls ++ [⟨authorization, requiredScope, enteredAt, .entered⟩] } :
      JwksSystem Key).seenAt j = s.seenAt j := by
  unfold seenAt
  dsimp only
  rcases lt_trichotomy j s.calls.length with hlt | rfl | hgt
  · rw [List.getElem?_append_left hlt]
  · rw [List.getElem?_concat_length, List.getElem?_eq_none le_rfl]
    rfl
  · rw [List.getElem?_eq_none (by rw [List.length_append]; exact hgt),
      List.getElem?_eq_none hgt.le]

/-- No move of a call takes the time of the last answer back. -/
theorem Spaced.lastRefresh_le (hs : s.Spaced config) {i : ℕ} {c : VerifyCall}
    {action : CallAction} {shared' : JwksShared Key} {pc : CallPc}
    (h : CallMoves library v s.shared s.clock i c action shared' pc) :
    s.shared.state.lastRefresh ≤ shared'.state.lastRefresh
      ∧ shared'.state.lastRefresh ≤ s.clock := by
  obtain ⟨hsame, -⟩ | ⟨answer, config, written, goesOn, -, -, hwrites, hstate, -⟩ := h.state
  · rw [hsame]
    exact ⟨le_rfl, hs.refreshed⟩
  · rw [hstate]
    rcases hwrites.lastRefresh with hnow | hsame
    · rw [hnow]
      exact ⟨hs.refreshed, le_rfl⟩
    · rw [hsame]
      exact ⟨le_rfl, hs.refreshed⟩

theorem Spaced.step {a : JwksAction} (hs : s.Spaced config) (hremote : v.remote = some config)
    (h : s.step library v a = some t) : t.Spaced config := by
  cases systemMoves_of_step h with
  | tick =>
    exact ⟨hs.locked, hs.refreshed.trans (Nat.le_add_right _ _),
      fun i c hc => (hs.entered i c hc).trans (Nat.le_add_right _ _),
      fun i seen hseen => ⟨(hs.waited i seen hseen).1,
        (hs.waited i seen hseen).2.trans (Nat.le_add_right _ _)⟩⟩
  | call =>
    refine ⟨fun i c hc hholds => ?_, hs.refreshed, fun i c hc => ?_, fun i seen hseen => ?_⟩
    · rcases getElem?_concat_cases hc with hc | rfl
      · exact hs.locked i c hc hholds
      · cases hholds
    · rcases getElem?_concat_cases hc with hc | rfl
      · exact hs.entered i c hc
      · exact le_rfl
    · rw [seenAt_concat] at hseen
      exact hs.waited i seen hseen
  | @moves i c action shared' pc hc hmove =>
    obtain ⟨hle, hle'⟩ := hs.lastRefresh_le hmove
    refine ⟨fun j d hd hholds => ?_, hle', fun j d hd => ?_, fun j seen hseen => ?_⟩
    · rcases getElem?_set_cases hd with ⟨rfl, rfl⟩ | ⟨hne, hd⟩
      · obtain ⟨hsame, hbefore⟩ | ⟨-, htaken⟩ | ⟨-, hfree⟩ := hmove.lock
        · exact hsame.trans (hs.locked j c hc (hbefore hholds))
        · exact htaken
        · rw [hfree] at hholds
          cases hholds
      -- another call has the mutex, so that this one neither takes it nor gives it back
      · have hlock := hs.locked j d hd hholds
        obtain ⟨hsame, -⟩ | ⟨hnone, -⟩ | ⟨hheld, -⟩ := hmove.lock
        · exact hsame.trans hlock
        · rw [hnone] at hlock
          cases hlock
        · exact absurd (Option.some.inj (hlock.symm.trans (hs.locked i c hc hheld))) hne
    · rcases getElem?_set_cases hd with ⟨rfl, rfl⟩ | ⟨-, hd⟩
      · exact hs.entered j c hc
      · exact hs.entered j d hd
    · rw [seenAt_set shared' pc hc] at hseen
      split at hseen
      · obtain ⟨p, config', -, hremote', rfl, rfl, hcooldown⟩ := hmove.seen hseen
        obtain rfl := Option.some.inj (hremote.symm.trans hremote')
        exact ⟨le_rfl, hcooldown⟩
      · exact ⟨(hs.waited j seen hseen).1.trans hle, (hs.waited j seen hseen).2⟩
  | sleeps _ => exact ⟨hs.locked, hs.refreshed, hs.entered, hs.waited⟩
  | refreshed _ hwrites =>
    refine ⟨fun i c hc hholds => ?_, ?_, hs.entered, fun i seen hseen => ?_⟩
    · exact hwrites.refreshLock.trans (hs.locked i c hc hholds)
    · rcases hwrites.lastRefresh with hnow | hsame
      · exact hnow.le
      · exact hsame.le.trans hs.refreshed
    · refine ⟨(hs.waited i seen hseen).1.trans ?_, (hs.waited i seen hseen).2⟩
      rcases hwrites.lastRefresh with hnow | hsame
      · exact hs.refreshed.trans hnow.ge
      · exact hsame.ge

theorem spaced_initial (state : JwksState Key) {clock : Instant} (refresher : RefresherPc)
    (h : state.lastRefresh ≤ clock) : (initial state clock refresher).Spaced config :=
  ⟨fun _ _ hc => absurd hc nofun, h, fun _ _ hc => absurd hc nofun,
    fun _ _ hseen => absurd hseen nofun⟩

/-! ## Requests are a cooldown apart -/

/-- **What has been waited for**: the time of the last answer, or, while a request is out, a
cooldown after the last answer its call saw. -/
def waitedFor (config : RemoteJwksConfig) (s : JwksSystem Key) : Instant :=
  ((s.shared.refreshLock.bind s.seenAt).map (· + config.refreshCooldown)).getD
    s.shared.state.lastRefresh

theorem Spaced.waitedFor_of_seenAt (hs : s.Spaced config) {i : ℕ} {seen : Instant}
    (h : s.seenAt i = some seen) : s.waitedFor config = seen + config.refreshCooldown := by
  unfold waitedFor
  rw [hs.lock_of_seenAt h, Option.bind_some, h]
  rfl

theorem waitedFor_of_none (h : ∀ i, s.seenAt i = none) :
    s.waitedFor config = s.shared.state.lastRefresh := by
  unfold waitedFor
  rw [Option.bind_eq_none_iff.mpr (fun i _ => h i)]
  rfl

/-- It has been waited for. -/
theorem Spaced.waitedFor_le (hs : s.Spaced config) : s.waitedFor config ≤ s.clock := by
  by_cases hnone : ∀ i, s.seenAt i = none
  · rw [waitedFor_of_none hnone]
    exact hs.refreshed
  · obtain ⟨i, hi⟩ := not_forall.mp hnone
    obtain ⟨seen, hseen⟩ := Option.ne_none_iff_exists'.mp hi
    rw [hs.waitedFor_of_seenAt hseen]
    exact (hs.waited i seen hseen).2

/-- A step that sends no request and ends none. -/
theorem Spaced.waitedFor_mono (hs : s.Spaced config) (ht : t.Spaced config)
    (hsame : ∀ i, t.seenAt i = s.seenAt i)
    (hle : s.shared.state.lastRefresh ≤ t.shared.state.lastRefresh) :
    s.waitedFor config ≤ t.waitedFor config := by
  by_cases hnone : ∀ i, s.seenAt i = none
  · rw [waitedFor_of_none hnone, waitedFor_of_none (fun i => (hsame i).trans (hnone i))]
    exact hle
  · obtain ⟨i, hi⟩ := not_forall.mp hnone
    obtain ⟨seen, hseen⟩ := Option.ne_none_iff_exists'.mp hi
    rw [hs.waitedFor_of_seenAt hseen, ht.waitedFor_of_seenAt ((hsame i).trans hseen)]

/-- A request ends: its answer is lost, or written now. -/
theorem lastRefresh_of_ended {i : ℕ} {c : VerifyCall} {action : CallAction}
    {shared' : JwksShared Key} {pc : CallPc} {seen : Instant}
    (h : CallMoves library v s.shared s.clock i c action shared' pc)
    (hseen : c.pc.seen = some seen) :
    (pc = .panicked ∨ pc = .dropped) ∨ shared'.state.lastRefresh = s.clock := by
  cases h with
  | refused hpc _ => rw [hpc] at hseen; cases hseen
  | localKeys hpc _ _ => rw [hpc] at hseen; cases hseen
  | checked hpc _ _ => rw [hpc] at hseen; cases hseen
  | locked hpc _ => rw [hpc] at hseen; cases hseen
  | fetches hpc _ _ => rw [hpc] at hseen; cases hseen
  | unlocks hpc _ _ _ => rw [hpc] at hseen; cases hseen
  | answered _ _ hwrites hends =>
    obtain ⟨-, hpanic⟩ | ⟨rfl, -⟩ := hends
    · exact Or.inl (Or.inl hpanic)
    · exact Or.inr hwrites.lastRefresh_eq
  | reads hpc => rw [hpc] at hseen; cases hseen
  | leftQueue hpc => rw [hpc] at hseen; cases hseen
  | abandoned _ => exact Or.inl (Or.inr rfl)

/-- **A step adds a cooldown** for a request it sends, and takes one back only if it loses an
answer. -/
theorem Spaced.waitedFor_step {a : JwksAction} (hs : s.Spaced config)
    (hremote : v.remote = some config) (h : s.step library v a = some t) :
    s.waitedFor config + (if s.startsFetch library v a then config.refreshCooldown else 0)
      ≤ t.waitedFor config
        + (if s.losesAnswer library v a then config.refreshCooldown else 0) := by
  have ht : t.Spaced config := hs.step hremote h
  -- a step that sends no request and ends none
  have hquiet : s.startsFetch library v a = false → (∀ i, t.seenAt i = s.seenAt i) →
      s.shared.state.lastRefresh ≤ t.shared.state.lastRefresh →
        s.waitedFor config + (if s.startsFetch library v a then config.refreshCooldown else 0)
          ≤ t.waitedFor config
            + (if s.losesAnswer library v a then config.refreshCooldown else 0) := by
    intro hstarts hsame hle
    rw [hstarts, if_neg Bool.false_ne_true, Nat.add_zero]
    exact (hs.waitedFor_mono ht hsame hle).trans (Nat.le_add_right _ _)
  have hmoves := systemMoves_of_step h
  cases hmoves with
  | tick => exact hquiet rfl (fun _ => rfl) le_rfl
  | call => exact hquiet rfl seenAt_concat le_rfl
  | sleeps haction =>
    refine hquiet ?_ (fun _ => rfl) le_rfl
    rcases haction with rfl | rfl <;> rfl
  | refreshed _ hwrites =>
    refine hquiet rfl (fun _ => rfl) ?_
    rcases hwrites.lastRefresh with hnow | hsame
    · exact hs.refreshed.trans hnow.ge
    · exact hsame.ge
  | @moves i c action shared' pc hc hmove =>
    obtain ⟨hle, -⟩ := hs.lastRefresh_le hmove
    have hat : s.seenAt i = c.pc.seen := by
      unfold seenAt
      rw [hc]
      rfl
    have hafter := seenAt_set shared' pc hc
    have hstarts : s.startsFetch library v (.step i action)
        = (!c.pc.seen.isSome && pc.seen.isSome) := by
      show (!s.fetches i && ((s.step library v (.step i action)).any (·.fetches i))) = _
      rw [h, Option.any_some]
      unfold fetches
      rw [hafter, if_pos rfl, hat]
    cases hbefore : c.pc.seen with
    | none =>
      cases hpc : pc.seen with
      | none =>
        refine hquiet (by rw [hstarts, hbefore, hpc]; rfl) (fun j => ?_) hle
        rw [hafter]
        split
        · rename_i hj
          rw [hj, hat, hbefore, hpc]
        · rfl
      | some seen =>
        -- the request is sent: the call has the mutex, so that no other is out
        obtain ⟨p, config', hrechecking, hremote', rfl, rfl, -⟩ := hmove.seen hpc
        have hlock : s.shared.refreshLock = some i :=
          hs.locked i c hc (by rw [hrechecking]; rfl)
        have hnone : ∀ j, s.seenAt j = none := by
          intro j
          by_cases hj : j = i
          · rw [hj, hat, hbefore]
          · exact hs.seenAt_eq_none hlock hj
        rw [waitedFor_of_none hnone, ht.waitedFor_of_seenAt
          ((hafter i).trans ((if_pos rfl).trans hpc)), hstarts, hbefore, hpc]
        exact Nat.le_add_right _ _
    | some seen =>
      have hout : s.seenAt i = some seen := hat.trans hbefore
      have hended : pc.seen = none := by
        cases hpc : pc.seen with
        | none => rfl
        | some x =>
          obtain ⟨p, _, hrechecking, -⟩ := hmove.seen hpc
          rw [hrechecking] at hbefore
          cases hbefore
      have hnone : ∀ j, ({ s with shared := shared', calls := s.calls.set i { c with pc := pc } } :
          JwksSystem Key).seenAt j = none := by
        intro j
        rw [hafter]
        split
        · exact hended
        · exact hs.seenAt_eq_none (hs.lock_of_seenAt hout) ‹_›
      obtain ⟨hseen, hclock⟩ := hs.waited i seen hout
      rw [hs.waitedFor_of_seenAt hout, waitedFor_of_none hnone, hstarts, hbefore]
      show seen + config.refreshCooldown + 0 ≤ shared'.state.lastRefresh + _
      rcases lastRefresh_of_ended hmove hbefore with hlost | hnow
      · have hloses : s.losesAnswer library v (.step i action) = true := by
          show (s.fetches i && ((s.step library v (.step i action)).any (fun t =>
            (t.calls[i]?).any (fun c => c.pc.lost)))) = true
          unfold fetches
          rw [h, hout, Option.any_some,
            List.getElem?_set_self (List.getElem?_eq_some_iff.mp hc).1, Option.any_some]
          rcases hlost with rfl | rfl <;> rfl
        rw [hloses, if_pos rfl, Nat.add_zero]
        exact Nat.add_le_add_right (hseen.trans hle) _
      · rw [hnow]
        exact hclock.trans (Nat.le_add_right _ _)

/-- **Requests for calls are a cooldown apart.** From a verifier that was just built, in any
run, at most one call has its request out, and the requests that were sent for calls, but for
those whose answer was lost, fit into the time that went by, a cooldown each. -/
theorem fetches_le_of_run {keys : VerificationKeys Key} {ttl : ℕ} {clock : Instant}
    {state : JwksState Key} {refresher : RefresherPc} {ops : List JwksAction}
    (hremote : v.remote = some config) (hnew : JwksState.new keys ttl clock = some state)
    (hr : runSteps (step library v) (initial state clock refresher) ops = some u) :
    (∀ i j, u.fetches i = true → u.fetches j = true → i = j)
      ∧ clock + config.refreshCooldown
          * countSteps (step library v) (startsFetch library v) (initial state clock refresher) ops
        ≤ u.clock + config.refreshCooldown
          * countSteps (step library v) (losesAnswer library v) (initial state clock refresher)
            ops := by
  have hclock : state.lastRefresh = clock := by
    obtain ⟨_, -, rfl⟩ := Option.map_eq_some_iff.mp hnew
    rfl
  have hstart : (initial state clock refresher).Spaced config :=
    spaced_initial state refresher hclock.le
  have hall : StepsMeet (step library v) (fun _ _ => True) (initial state clock refresher) ops :=
    stepsMeet_of_forall (fun _ _ => trivial) _ ops
  have hend : u.Spaced config := inv_of_run (I := Spaced config)
    (fun _ _ _ hs _ h => hs.step hremote h) hstart hall hr
  refine ⟨fun i j hi hj => ?_, ?_⟩
  · obtain ⟨x, hx⟩ := Option.isSome_iff_exists.mp hi
    obtain ⟨y, hy⟩ := Option.isSome_iff_exists.mp hj
    exact Option.some.inj ((hend.lock_of_seenAt hx).symm.trans (hend.lock_of_seenAt hy))
  · have hgain : waitedFor config (initial state clock refresher) + config.refreshCooldown
          * countSteps (step library v) (startsFetch library v) (initial state clock refresher) ops
        ≤ u.waitedFor config + config.refreshCooldown
          * countSteps (step library v) (losesAnswer library v) (initial state clock refresher)
            ops :=
      gain_of_run (I := Spaced config) (fun _ _ _ hs _ h => hs.step hremote h)
        (fun _ _ _ hs _ h => hs.waitedFor_step hremote h) hstart hall hr
    rw [waitedFor_of_none (fun _ => rfl)] at hgain
    exact (hclock ▸ hgain).trans (Nat.add_le_add_right hend.waitedFor_le _)

/-- One request, a cooldown after the keys were read. -/
theorem fetches_le_of_rotatedKeys : ∃ u,
    runSteps (step RotatedKeys.library RotatedKeys.verifier) RotatedKeys.start
        (RotatedKeys.ops "max-age=600") = some u
      ∧ (∀ i j, u.fetches i = true → u.fetches j = true → i = j)
      ∧ 0 + RotatedKeys.config.refreshCooldown
          * countSteps (step RotatedKeys.library RotatedKeys.verifier)
            (startsFetch RotatedKeys.library RotatedKeys.verifier) RotatedKeys.start
            (RotatedKeys.ops "max-age=600")
        ≤ u.clock + RotatedKeys.config.refreshCooldown
          * countSteps (step RotatedKeys.library RotatedKeys.verifier)
            (losesAnswer RotatedKeys.library RotatedKeys.verifier) RotatedKeys.start
            (RotatedKeys.ops "max-age=600") := by
  obtain ⟨u, _, _, hu, -, -⟩ := RotatedKeys.exists_principal
  have hnew : JwksState.new RotatedKeys.keys (300 * instantSecond) 0 = some RotatedKeys.state := rfl
  exact ⟨u, hu, fetches_le_of_run rfl hnew hu⟩

/-! ## Unknown keys -/

/-- **A call that is to look its key up** finds it, or began at most a cooldown after the last
answer. -/
def Fresh (config : RemoteJwksConfig) (s : JwksSystem Key) : Prop :=
  s.shared.poisoned = false → ∀ (i : ℕ) (c : VerifyCall) (p : PresentedToken),
    s.calls[i]? = some c → c.pc = .reading p →
      (s.shared.state.keys.lookup p.kid).isNone = false
        ∨ c.enteredAt ≤ s.shared.state.lastRefresh + config.refreshCooldown

/-- A move of a call to its key. -/
theorem Spaced.fresh_of_reading (hs : s.Spaced config) (hremote : v.remote = some config) {i : ℕ}
    {c : VerifyCall} {action : CallAction} {shared' : JwksShared Key} {p : PresentedToken}
    (hc : s.calls[i]? = some c)
    (h : CallMoves library v s.shared s.clock i c action shared' (.reading p)) :
    (shared'.state.keys.lookup p.kid).isNone = false
      ∨ c.enteredAt ≤ shared'.state.lastRefresh + config.refreshCooldown := by
  have hentered := hs.entered i c hc
  -- the condition was not met: the key is there, or the last answer is recent
  have hchecked : ∀ (config' : RemoteJwksConfig) (earlier : Instant) (go : CallPc)
      (q : PresentedToken), v.remote = some config' → go ≠ .reading p →
        s.shared.checked config'.refreshCooldown s.clock earlier q go = .reading p →
          (s.shared.state.keys.lookup p.kid).isNone = false
            ∨ c.enteredAt ≤ s.shared.state.lastRefresh + config.refreshCooldown := by
    intro config' earlier go q hremote' hgo hpc
    obtain rfl := Option.some.inj (hremote.symm.trans hremote')
    obtain ⟨hgoes, -⟩ | ⟨hreads, hfound | hrecent⟩ | hpanics := checked_cases s.shared
      config.refreshCooldown s.clock earlier q go
    · exact absurd (hgoes.symm.trans hpc) hgo
    · obtain rfl := CallPc.reading.inj (hreads.symm.trans hpc)
      exact Or.inl hfound
    · exact Or.inr (hentered.trans hrecent.le)
    · rw [hpanics] at hpc
      cases hpc
  generalize hpc : CallPc.reading p = pc at h
  cases h with
  | localKeys _ _ hnone =>
    rw [hnone] at hremote
    cases hremote
  | @checked earlier q config' _ _ hremote' =>
    exact hchecked config' earlier (.waiting q) q hremote' nofun hpc.symm
  | @unlocks earlier q config' _ _ hremote' hpc' _ =>
    exact hchecked config' earlier (.fetching q s.shared.state.lastRefresh) q hremote' nofun
      (hpc'.trans hpc.symm)
  | answered hat _ hwrites hends =>
    obtain ⟨-, rfl⟩ | ⟨rfl, -⟩ := hends
    · cases hpc
    · refine Or.inr (hentered.trans ?_)
      rw [show ∀ shared : JwksShared Key, shared.unlocked.state = shared.state from fun _ => rfl,
        hwrites.lastRefresh_eq]
      exact Nat.le_add_right _ _
  | reads _ =>
    unfold JwksShared.verified at hpc
    split at hpc <;> cases hpc
  | _ => cases hpc

theorem Fresh.step {a : JwksAction} (hfresh : s.Fresh config) (hs : s.Spaced config)
    (hremote : v.remote = some config) (h : s.step library v a = some t) : t.Fresh config := by
  -- for a call that does not move: an answer that was written is newer than its beginning
  have hwritten : ∀ {shared' : JwksShared Key} {result} {goesOn : Bool},
      Writes s.shared s.clock result shared' goesOn → shared'.poisoned = false →
        ∀ (i : ℕ) (c : VerifyCall), s.calls[i]? = some c →
          c.enteredAt ≤ shared'.state.lastRefresh + config.refreshCooldown := by
    intro shared' result goesOn hwrites hp i c hc
    rw [hwrites.fresh hp]
    exact (hs.entered i c hc).trans (Nat.le_add_right _ _)
  cases systemMoves_of_step h with
  | tick => exact hfresh
  | call =>
    intro hp i c p hc hpc
    rcases getElem?_concat_cases hc with hc | rfl
    · exact hfresh hp i c p hc hpc
    · cases hpc
  | @moves i c action shared' pc hc hmove =>
    intro hp j d p hd hpc
    rcases getElem?_set_cases hd with ⟨rfl, rfl⟩ | ⟨-, hd⟩
    · obtain rfl : pc = .reading p := hpc
      exact hs.fresh_of_reading (c := c) hremote hc hmove
    · obtain ⟨hstate, hpoisoned⟩ | ⟨answer, config', written, goesOn, -, -, hwrites, hstate,
        hpoisoned⟩ := hmove.state
      · have hsame := hfresh (hpoisoned.symm.trans hp) j d p hd hpc
        rw [← hstate] at hsame
        exact hsame
      · refine Or.inr ?_
        rw [show shared'.state = written.state from hstate]
        exact hwritten hwrites (hpoisoned.symm.trans hp) j d hd
  | sleeps _ => exact hfresh
  | refreshed _ hwrites =>
    intro hp j d p hd _
    exact Or.inr (hwritten hwrites hp j d hd)

end JwksSystem

/-- No other check refuses a token for an unknown key. -/
theorem verifyWith_ne_unknownKeyId {library : Jwt.Library Key} {v : JwtVerifier} {token : String}
    {alg : Jwt.Algorithm} {key : VerificationKey Key} {decodeNow claimsNow : ℕ} :
    (v.verifyWith library token alg key decodeNow claimsNow).FailsOnly (· ≠ .unknownKeyId) := by
  unfold JwtVerifier.verifyWith
  refine (failsOnly_ensure nofun).bind (fun _ _ => ?_)
  refine (Except.FailsOnly.mapError (fun e _ => ?_)).bind (fun claims _ => ?_)
  · cases e <;> exact nofun
  · refine Except.FailsOnly.bind ?_ (fun _ _ => Except.failsOnly_ok _)
    unfold JwtVerifier.validateClaims
    refine (failsOnly_ensure nofun).bind (fun _ _ => ?_)
    refine (failsOnly_ensure nofun).bind (fun _ _ => ?_)
    refine (failsOnly_ensure nofun).bind (fun _ _ => ?_)
    refine (failsOnly_ensure nofun).bind (fun _ _ => ?_)
    exact (failsOnly_ensure nofun).bind (fun _ _ => failsOnly_ensure nofun)

theorem presentedToken_ne_unknownKeyId {library : Jwt.Library Key}
    {authorization : Option String} :
    (presentedToken library authorization).FailsOnly (· ≠ .unknownKeyId) := by
  unfold presentedToken bearerToken
  refine Except.FailsOnly.bind ?_ (fun _ _ => ?_)
  · refine (failsOnly_orError nofun).bind (fun _ _ => ?_)
    refine (failsOnly_orError nofun).bind (fun _ _ => ?_)
    refine (failsOnly_ensure nofun).bind (fun _ _ => ?_)
    exact (failsOnly_ensure nofun).bind (fun _ _ => Except.failsOnly_ok _)
  · refine (failsOnly_orError nofun).bind (fun _ _ => ?_)
    exact (failsOnly_orError nofun).bind (fun _ _ => Except.failsOnly_ok _)

theorem require_ne_unknownKeyId {scopes : ScopeSet} {scope : String} :
    (scopes.require scope).FailsOnly (· ≠ .unknownKeyId) := by
  unfold ScopeSet.require
  split
  · exact Except.failsOnly_ok ()
  · split
    · exact Except.failsOnly_error nofun
    · exact Except.failsOnly_error nofun

/-- A call that ends for an unknown key did not find it. -/
theorem lookup_of_verified {library : Jwt.Library Key} {v : JwtVerifier}
    {shared : JwksShared Key} {requiredScope : String} {p : PresentedToken}
    {decodeNow claimsNow : ℕ}
    (h : shared.verified library v requiredScope p decodeNow claimsNow
      = .returned (.error .unknownKeyId)) :
    shared.poisoned = false ∧ shared.state.keys.lookup p.kid = none := by
  unfold JwksShared.verified at h
  split at h
  · cases h
  · rename_i hp
    refine ⟨Bool.eq_false_iff.mpr hp, ?_⟩
    cases hkey : shared.state.keys.lookup p.kid with
    | none => rfl
    | some key =>
      rw [hkey] at h
      refine absurd rfl ((?_ : Except.FailsOnly (· ≠ AuthError.unknownKeyId) _) _
        (CallPc.returned.inj h))
      exact verifyWith_ne_unknownKeyId.bind
        (fun _ _ => require_ne_unknownKeyId.bind (fun _ _ => Except.failsOnly_ok _))

namespace JwksSystem

variable {library : Jwt.Library Key} {v : JwtVerifier} {config : RemoteJwksConfig}
  {s t u : JwksSystem Key}

/-- **Unknown keys.** From a verifier that was just built, in any run, a call that is refused
for an unknown key presented one that was not in the set at a moment at which the call ran,
and the last answer of the provider, or its last failure, was then at most a cooldown older
than the call. -/
theorem unknownKeyId_of_run {keys : VerificationKeys Key} {ttl : ℕ} {clock : Instant}
    {state : JwksState Key} {refresher : RefresherPc} {ops : List JwksAction} {i : ℕ}
    {c : VerifyCall} (hremote : v.remote = some config)
    (hkeys : keys.keys.isEmpty = false) (hnew : JwksState.new keys ttl clock = some state)
    (hr : runSteps (step library v) (initial state clock refresher) ops = some u)
    (hc : u.calls[i]? = some c) (hpc : c.pc = .returned (.error .unknownKeyId)) :
    ∃ before after t p, ops = before ++ after
      ∧ runSteps (step library v) (initial state clock refresher) before = some t
      ∧ t.Running i ∧ presentedToken library c.authorization = .ok p
      ∧ t.shared.state.keys.lookup p.kid = none
      ∧ c.enteredAt ≤ t.shared.state.lastRefresh + config.refreshCooldown := by
  obtain ⟨_, -, rfl⟩ := Option.map_eq_some_iff.mp hnew
  obtain ⟨before, after, t, action, d, shared', rfl, hbefore, hd, hauthorization, -, hentered,
    hmove⟩ := exists_move_of_returned rfl hr hc hpc
  have hruns : t.Running i := ⟨d, hd, hmove.not_ended⟩
  have hkeyed := keyed_of_run (P := fun keys => keys.keys.isEmpty = false)
    (fun _ _ _ _ _ h => (fetched_eq_ok h).1) rfl hkeys hbefore
  have hfresh : t.Spaced config ∧ t.Fresh config := inv_of_run
    (I := fun s => s.Spaced config ∧ s.Fresh config) (P := fun _ _ => True)
    (fun _ _ _ hs _ h => ⟨hs.1.step hremote h, hs.2.step hs.1 hremote h⟩)
    ⟨spaced_initial _ refresher le_rfl, fun _ _ _ _ hc => absurd hc nofun⟩
    (stepsMeet_of_forall (fun _ _ => trivial) _ before) hbefore
  rw [← hauthorization, ← hentered]
  generalize hresult : CallPc.returned (.error .unknownKeyId) = pc at hmove
  cases hmove with
  | refused _ hp =>
    obtain rfl := Except.error.inj (CallPc.returned.inj hresult)
    exact absurd rfl (presentedToken_ne_unknownKeyId _ hp)
  | @checked earlier p config' _ _ _ =>
    obtain ⟨hgo, -⟩ | ⟨hread, -⟩ | hpanic := checked_cases t.shared config'.refreshCooldown
      t.clock earlier p (.waiting p)
    · rw [hgo] at hresult
      cases hresult
    · rw [hread] at hresult
      cases hresult
    · rw [hpanic] at hresult
      cases hresult
  | unlocks _ _ _ hends => obtain rfl | rfl := hends <;> cases hresult
  | answered _ _ hwrites hends =>
    obtain ⟨-, rfl⟩ | ⟨-, rfl | ⟨hempty, _, -⟩⟩ := hends
    · cases hresult
    · cases hresult
    · rw [hwrites.keys (P := fun keys => keys.keys.isEmpty = false)
        (fun _ _ h => (fetched_eq_ok h).1) hkeyed.keys] at hempty
      cases hempty
  | @reads p decodeNow claimsNow hat =>
    obtain ⟨hsound, hnone⟩ := lookup_of_verified hresult.symm
    refine ⟨before, _, t, p, rfl, hbefore, hruns, hkeyed.presented i d p hd (hat ▸ rfl), hnone, ?_⟩
    rcases hfresh.2 hsound i d p hd hat with hfound | hrecent
    · rw [hnone] at hfound
      cases hfound
    · exact hrecent
  | _ => cases hresult

/-- A call that comes before the cooldown is over. -/
theorem unknownKeyId_of_rotatedKeys : ∃ u c,
    runSteps (step RotatedKeys.library RotatedKeys.verifier) RotatedKeys.start
        [.call (some "Bearer token") "orders:read", .step 0 (.check 0), .step 0 (.read 150 150)]
          = some u
      ∧ u.calls[0]? = some c ∧ c.pc = .returned (.error .unknownKeyId)
      ∧ ∃ before after t p,
        [.call (some "Bearer token") "orders:read", .step 0 (.check 0), .step 0 (.read 150 150)]
            = before ++ after
          ∧ runSteps (step RotatedKeys.library RotatedKeys.verifier) RotatedKeys.start before
              = some t
          ∧ t.Running 0 ∧ presentedToken RotatedKeys.library c.authorization = .ok p
          ∧ t.shared.state.keys.lookup p.kid = none
          ∧ c.enteredAt
              ≤ t.shared.state.lastRefresh + RotatedKeys.config.refreshCooldown := by
  have hrun : (runSteps (step RotatedKeys.library RotatedKeys.verifier) RotatedKeys.start
      [.call (some "Bearer token") "orders:read", .step 0 (.check 0),
        .step 0 (.read 150 150)]).any
      (fun u => (u.calls[0]?).any (fun c => match c.pc with
        | .returned (.error .unknownKeyId) => true
        | _ => false)) = true := by decide +kernel
  obtain ⟨u, hu, hcall⟩ := (Option.any_eq_true _ _).mp hrun
  obtain ⟨c, hc, hpc⟩ := (Option.any_eq_true _ _).mp hcall
  split at hpc
  · rename_i hreturned
    have hnew : JwksState.new RotatedKeys.keys (300 * instantSecond) 0 = some RotatedKeys.state :=
      rfl
    exact ⟨u, c, hu, hc, hreturned,
      unknownKeyId_of_run rfl (by decide +kernel) hnew hu hc hreturned⟩
  · cases hpc

/-! ## Overflow -/

theorem instantAdd_eq_none {now duration : ℕ} :
    instantAdd now duration = none ↔ instantBound ≤ now + duration := by
  unfold instantAdd
  by_cases h : now + duration < instantBound
  · rw [if_pos h]
    exact ⟨nofun, fun hle => absurd h (not_lt.mpr hle)⟩
  · rw [if_neg h]
    exact ⟨fun _ => not_lt.mp h, fun _ => rfl⟩

/-- A write poisons the lock if it was poisoned, or if the lifetime overflows. -/
theorem poisoned_of_writes {shared shared' : JwksShared Key} {clock : Instant} {goesOn : Bool}
    {result : Except AuthError (VerificationKeys Key × ℕ)}
    (h : Writes shared clock result shared' goesOn) :
    shared'.poisoned = true ↔ shared.poisoned = true ∨ outlastsClock clock result = true := by
  cases h with
  | refused hp => exact ⟨fun _ => Or.inl hp, fun _ => hp⟩
  | failed _ => exact ⟨Or.inl, fun h => h.resolve_right Bool.false_ne_true⟩
  | @replaced keys ttl expiresAt _ hfits =>
    have hbound : ¬ instantBound ≤ clock + ttl := fun hle => by
      rw [instantAdd_eq_none.mpr hle] at hfits
      cases hfits
    exact ⟨Or.inl, fun h => h.resolve_right (fun hle => hbound (of_decide_eq_true hle))⟩
  | overflowed _ hover =>
    exact ⟨fun _ => Or.inr (decide_eq_true (instantAdd_eq_none.mp hover)), fun _ => rfl⟩

theorem poisoned_step (hremote : v.remote = some config) {a : JwksAction}
    (h : s.step library v a = some t) :
    t.shared.poisoned = true ↔ s.shared.poisoned = true ∨ s.overflows library config a = true := by
  have hkept : t.shared.poisoned = s.shared.poisoned → s.overflows library config a = false →
      (t.shared.poisoned = true
        ↔ s.shared.poisoned = true ∨ s.overflows library config a = true) := by
    intro hsame hnot
    rw [hsame, hnot]
    exact ⟨Or.inl, fun h => h.resolve_right Bool.false_ne_true⟩
  cases systemMoves_of_step h with
  | tick => exact hkept rfl rfl
  | call => exact hkept rfl rfl
  | sleeps haction =>
    refine hkept rfl ?_
    rcases haction with rfl | rfl <;> rfl
  | refreshed hremote' hwrites =>
    obtain rfl := Option.some.inj (hremote.symm.trans hremote')
    exact poisoned_of_writes hwrites
  | @moves i c action shared' pc hc hmove =>
    cases hmove with
    | @answered _ _ _ _ written _ _ _ hremote' hwrites _ =>
      obtain rfl := Option.some.inj (hremote.symm.trans hremote')
      exact (poisoned_of_writes hwrites : written.poisoned = true ↔ _)
    | _ => exact hkept rfl rfl

/-- Behind a poisoned lock no call comes to a principal. -/
theorem principal_of_poisoned {a : JwksAction} (hp : s.shared.poisoned = true)
    (h : s.step library v a = some t) {i : ℕ} {c : VerifyCall} {principal : Principal}
    (hc : t.calls[i]? = some c) (hpc : c.pc = .returned (.ok principal)) :
    s.calls[i]? = some c := by
  cases systemMoves_of_step h with
  | tick => exact hc
  | call =>
    rcases getElem?_concat_cases hc with hc | rfl
    · exact hc
    · cases hpc
  | sleeps _ => exact hc
  | refreshed _ _ => exact hc
  | @moves j d action shared' pc hd hmove =>
    rcases getElem?_set_cases hc with ⟨rfl, rfl⟩ | ⟨-, hc⟩
    · generalize hresult : CallPc.returned (.ok principal) = pc' at hpc
      obtain rfl : pc = pc' := hpc
      cases hmove with
      | refused _ _ => cases CallPc.returned.inj hresult
      | @checked earlier p config' _ _ _ =>
        unfold JwksShared.checked at hresult
        rw [if_pos hp] at hresult
        cases hresult
      | unlocks _ _ _ hends => obtain rfl | rfl := hends <;> cases hresult
      | answered _ _ _ hends =>
        obtain ⟨-, rfl⟩ | ⟨-, rfl | ⟨-, e, rfl⟩⟩ := hends
        · cases hresult
        · cases hresult
        · cases CallPc.returned.inj hresult
      | reads _ =>
        unfold JwksShared.verified at hresult
        rw [if_pos hp] at hresult
        cases hresult
      | _ => cases hresult
    · exact hc

/-- **Poisoning.** In any run the lock of the keys is poisoned at the end if and only if it was
at the start or an answer came with keys whose lifetime the clock cannot hold. And from a state
in which it is poisoned, in any run, no call is given a principal any more. -/
theorem poisoned_iff_of_run {ops : List JwksAction} (hremote : v.remote = some config)
    (hr : runSteps (step library v) s ops = some u) :
    (u.shared.poisoned = true ↔ s.shared.poisoned = true
        ∨ 0 < countSteps (step library v) (overflows library config) s ops)
      ∧ (s.shared.poisoned = true → ∀ (i : ℕ) (c : VerifyCall) (principal : Principal),
        u.calls[i]? = some c → c.pc = .returned (.ok principal) → s.calls[i]? = some c) := by
  have hflag : ∀ s a t, step library v s a = some t →
      (t.shared.poisoned = true
        ↔ s.shared.poisoned = true ∨ s.overflows library config a = true) :=
    fun _ _ _ h => poisoned_step hremote h
  refine ⟨flag_of_run hflag hr, fun hp i c principal hc hpc => ?_⟩
  by_contra hnot
  obtain ⟨before, a, after, t, t', rfl, hbefore, hstep, hbegan, hthen⟩ :=
    exists_step_of_run (p := fun x : JwksSystem Key => x.calls[i]? = some c) hnot hc hr
  have hpoisoned : t.shared.poisoned = true := inv_of_run
    (I := fun s => s.shared.poisoned = true) (P := fun _ _ => True)
    (fun _ _ _ hs _ h => (poisoned_step hremote h).mpr (Or.inl hs)) hp
    (stepsMeet_of_forall (fun _ _ => trivial) s before) hbefore
  exact hbegan (principal_of_poisoned hpoisoned hstep hthen hpc)

/-- A provider that announces the longest lifetime there is. -/
theorem poisoned_of_rotatedKeys : ∃ s u,
    runSteps (step RotatedKeys.library RotatedKeys.verifier) RotatedKeys.start
        ((RotatedKeys.ops "max-age=18446744073709551615").take 6) = some s
      ∧ s.shared.poisoned = true
      ∧ runSteps (step RotatedKeys.library RotatedKeys.verifier) s
          [.call (some "Bearer token") "orders:read", .step 1 (.check 0)] = some u
      ∧ (u.shared.poisoned = true ↔ s.shared.poisoned = true
        ∨ 0 < countSteps (step RotatedKeys.library RotatedKeys.verifier)
          (overflows RotatedKeys.library RotatedKeys.config) s
          [.call (some "Bearer token") "orders:read", .step 1 (.check 0)])
      ∧ (s.shared.poisoned = true → ∀ (i : ℕ) (c : VerifyCall) (principal : Principal),
        u.calls[i]? = some c → c.pc = .returned (.ok principal) → s.calls[i]? = some c) := by
  have hrun : (runSteps (step RotatedKeys.library RotatedKeys.verifier) RotatedKeys.start
      ((RotatedKeys.ops "max-age=18446744073709551615").take 6)).any (fun s =>
        s.shared.poisoned && (runSteps (step RotatedKeys.library RotatedKeys.verifier) s
          [.call (some "Bearer token") "orders:read", .step 1 (.check 0)]).isSome) = true := by
    decide +kernel
  obtain ⟨s, hs, hafter⟩ := (Option.any_eq_true _ _).mp hrun
  obtain ⟨hp, hsome⟩ := (Bool.and_eq_true _ _).mp hafter
  obtain ⟨u, hu⟩ := Option.isSome_iff_exists.mp hsome
  exact ⟨s, u, hs, hp, hu, poisoned_iff_of_run rfl hu⟩

end JwksSystem
