import Pay3.JwtVerification
import Pay3.MarkedSteps

/-!
# The key cache

A verifier with a remote key set keeps the keys it read last, the time they
expire, and the time of the last answer. A call that finds the keys expired or
the key it needs missing fetches them again, unless the last answer is less
than a cooldown old. Calls run at the same time: a mutex lets one of them fetch,
and the others, once they have the mutex, look again. A task of its own
refreshes the keys when they expire. The keys sit behind a lock of the standard
library, which is poisoned for good when a thread panics while it writes.

The lifetime the provider announces is added to the clock while the keys are
written, and the sum can overflow. Then the lock is poisoned.

This is the model of the system, one step of one party at a time, and what each
of its steps can do (`callMoves_of_callStep`, `systemMoves_of_step`).
-/

variable {Key : Type}

/-! ## Reading a key set -/

/-- `jwk_algorithm`. -/
def jwkAlgorithm : Option Jwt.KeyAlgorithm → Except AuthError Jwt.Algorithm
  | some (.signing .rs256) => .ok .rs256
  | some (.signing .edDSA) => .ok .edDSA
  | _ => .error .unsupportedAlgorithm

/-- The loop of `parse_jwks_keys`: a later key replaces an earlier one of its name. -/
def insertJwks : List (Jwt.Jwk Key) → VerificationKeys Key → Except AuthError (VerificationKeys Key)
  | [], keys => .ok keys
  | jwk :: jwks, keys => do
    let kid ← orError (jwk.keyId.filter (fun kid => !Config.blank kid)) .missingKeyId
    let algorithm ← jwkAlgorithm jwk.keyAlgorithm
    let key ← orError jwk.decodingKey .invalidKey
    insertJwks jwks (keys.insert kid ⟨algorithm, key⟩)

/-- `parse_jwks_keys`. -/
def parseJwksKeys (library : Jwt.Library Key) (jwksJson : String) :
    Except AuthError (VerificationKeys Key) := do
  let jwks ← orError (library.jwkSet jwksJson) .invalidJwks
  let keys ← insertJwks jwks ∅
  ensure (!keys.keys.isEmpty) .missingKeyId
  pure keys

/-- The lifetime one part of the header announces. -/
def maxAgeOf (part : List Char) : Option ℕ :=
  (((trimText (String.ofList part)).toList.dropPrefix? "max-age=".toList).bind (fun rest =>
    Config.parseUnsigned (2 ^ 64) (trimText (String.ofList rest)))).map
      (fun seconds => max seconds 5 * instantSecond)

/-- `parse_cache_control_max_age`: the first part that announces one. -/
def parseCacheControlMaxAge (header : Option String) (defaultTtl : ℕ) : ℕ :=
  match header with
  | none => defaultTtl
  | some header => ((header.toList.splitOn ',').findSome? maxAgeOf).getD defaultTtl

/-- What comes back for a request for the key set. -/
inductive JwksAnswer
  /-- It could not be sent, or timed out. -/
  | sendFailed (error : String)
  | answered (status : ℕ) (cacheControl : Option String) (body : Except String String)

/-- `RemoteJwksClient::fetch`: the keys and how long they are good for. -/
def JwksAnswer.fetched (library : Jwt.Library Key) (config : RemoteJwksConfig) :
    JwksAnswer → Except AuthError (VerificationKeys Key × ℕ)
  | .sendFailed error => .error (.remoteJwksFetchFailed error)
  | .answered status cacheControl body => do
    ensure (decide (200 ≤ status ∧ status < 300))
      (.remoteJwksFetchFailed ("remote jwks returned HTTP status " ++ library.statusText status))
    let ttl := parseCacheControlMaxAge cacheControl config.defaultTtl
    let body ← body.mapError .remoteJwksFetchFailed
    let keys ← parseJwksKeys library body
    pure (keys, ttl)

/-! ## The cached keys -/

/-- The seconds of an `Instant` are a signed 64-bit number. -/
def instantBound : ℕ := 2 ^ 63 * instantSecond

/-- `Instant + Duration`, which panics when it overflows. -/
def instantAdd (now duration : ℕ) : Option Instant :=
  if now + duration < instantBound then some (now + duration) else none

/-- `JwksState`. -/
structure JwksState (Key : Type) where
  keys : VerificationKeys Key
  expiresAt : Instant
  lastRefresh : Instant

namespace JwksState

/-- `JwksState::new`; `none` when it panics. -/
def new (keys : VerificationKeys Key) (ttl : ℕ) (now : Instant) : Option (JwksState Key) :=
  (instantAdd now ttl).map (fun expiresAt => ⟨keys, expiresAt, now⟩)

/-- The condition of `maybe_refresh_remote`: `is_expired` reads the clock and `can_refresh` reads
it again. `none` when the sum in `can_refresh` overflows. -/
def needsFetch (state : JwksState Key) (cooldown : ℕ) (kid : String) (earlier now : Instant) :
    Option Bool :=
  if state.expiresAt ≤ earlier ∨ (state.keys.lookup kid).isNone then
    (instantAdd state.lastRefresh cooldown).map (fun again => decide (again ≤ now))
  else some false

end JwksState

/-- What the clones of a verifier share: the keys behind their lock, and the mutex, with the call
that has it. -/
structure JwksShared (Key : Type) where
  state : JwksState Key
  poisoned : Bool
  refreshLock : Option ℕ

/-- **A result is written.** It is written and the caller goes on, or the caller panics, with
the lock poisoned if it was not. -/
def JwksShared.write (shared : JwksShared Key) (clock : Instant)
    (result : Except AuthError (VerificationKeys Key × ℕ)) : JwksShared Key × Bool :=
  if shared.poisoned then (shared, false)
  else match result with
    | .error _ => ({ shared with state := { shared.state with lastRefresh := clock } }, true)
    | .ok (keys, ttl) =>
      match instantAdd clock ttl with
      | some expiresAt => ({ shared with state := ⟨keys, expiresAt, clock⟩ }, true)
      -- the keys are replaced before the sum is formed
      | none =>
        ({ shared with state := { shared.state with keys := keys }, poisoned := true }, false)

/-! ## One call -/

/-- A token whose header was read. -/
structure PresentedToken where
  token : String
  alg : Jwt.Algorithm
  kid : String
  deriving DecidableEq

/-- The beginning of `verify_bearer_with_scope_async`. -/
def presentedToken (library : Jwt.Library Key) (authorization : Option String) :
    Except AuthError PresentedToken := do
  let token ← bearerToken authorization
  let header ← orError (library.decodeHeader token) .invalidToken
  let kid ← orError header.kid .missingKeyId
  pure ⟨token, header.alg, kid⟩

/-- **Where a call is**, between two of its steps. -/
inductive CallPc
  | entered
  /-- It waits for the mutex. -/
  | waiting (p : PresentedToken)
  /-- It has the mutex and is to look again. -/
  | rechecking (p : PresentedToken)
  /-- It has the mutex, and its request is out; the last answer it saw is of this time. -/
  | fetching (p : PresentedToken) (lastRefresh : Instant)
  /-- The key is to be looked up. -/
  | reading (p : PresentedToken)
  | returned (result : Except AuthError Principal)
  | panicked
  /-- The client went away. -/
  | dropped

namespace CallPc

/-- The token the call brings, once it was read. -/
def token : CallPc → Option PresentedToken
  | .waiting p => some p
  | .rechecking p => some p
  | .fetching p _ => some p
  | .reading p => some p
  | _ => none

def holdsLock : CallPc → Bool
  | .rechecking _ => true
  | .fetching _ _ => true
  | _ => false

/-- The time of the last answer that a call saw whose request is out. -/
def seen : CallPc → Option Instant
  | .fetching _ lastRefresh => some lastRefresh
  | _ => none

/-- The call ended without a result. -/
def lost : CallPc → Bool
  | .panicked => true
  | .dropped => true
  | _ => false

end CallPc

/-- A call of `verify_bearer_with_scope_async`. -/
structure VerifyCall where
  authorization : Option String
  requiredScope : String
  enteredAt : Instant
  pc : CallPc

/-- One step of a call. -/
inductive CallAction
  /-- The condition is evaluated; the keys may have been compared with an earlier clock. -/
  | check (earlier : Instant)
  | acquire
  | answer (answer : JwksAnswer)
  /-- The key is looked up and the token is verified, by two readings of the wall clock. -/
  | read (decodeNow claimsNow : ℕ)
  | drop

namespace JwksShared

/-- A pass through the condition: `go` if the keys are to be fetched. -/
def checked (shared : JwksShared Key) (cooldown : ℕ) (clock earlier : Instant)
    (p : PresentedToken) (go : CallPc) : CallPc :=
  if shared.poisoned then .panicked
  else match shared.state.needsFetch cooldown p.kid earlier clock with
    | none => .panicked
    | some true => go
    | some false => .reading p

/-- The mutex is given back. -/
def unlocked (shared : JwksShared Key) : JwksShared Key := { shared with refreshLock := none }

variable (library : Jwt.Library Key) (v : JwtVerifier)

/-- The end of a call: the key is looked up, and the token verified with it. -/
def verified (shared : JwksShared Key) (requiredScope : String) (p : PresentedToken)
    (decodeNow claimsNow : ℕ) : CallPc :=
  if shared.poisoned then .panicked
  else .returned (do
    let key ← orError (shared.state.keys.lookup p.kid) .unknownKeyId
    let principal ← v.verifyWith library p.token p.alg key decodeNow claimsNow
    principal.scopes.require requiredScope
    pure principal)

/-- **One step of the call `i`**: what is shared afterwards, and where the call goes. -/
def callStep (shared : JwksShared Key) (clock : Instant) (i : ℕ) (c : VerifyCall) :
    CallAction → Option (JwksShared Key × CallPc)
  | .check earlier =>
    if earlier ≤ clock then
      match c.pc with
      | .entered =>
        match presentedToken library c.authorization with
        | .error e => some (shared, .returned (.error e))
        | .ok p =>
          match v.remote with
          | none => some (shared, .reading p)
          | some config =>
            some (shared, shared.checked config.refreshCooldown clock earlier p (.waiting p))
      | .rechecking p =>
        match v.remote with
        | none => none
        | some config =>
          match shared.checked config.refreshCooldown clock earlier p
              (.fetching p shared.state.lastRefresh) with
          | .fetching p lastRefresh => some (shared, .fetching p lastRefresh)
          | pc => some (shared.unlocked, pc)
      | _ => none
    else none
  | .acquire =>
    match c.pc with
    | .waiting p =>
      if shared.refreshLock = none then some ({ shared with refreshLock := some i }, .rechecking p)
      else none
    | _ => none
  | .answer answer =>
    match c.pc, v.remote with
    | .fetching p _, some config =>
      match shared.write clock (answer.fetched library config) with
      | (shared', false) => some (shared'.unlocked, .panicked)
      | (shared', true) =>
        match answer.fetched library config with
        | .ok _ => some (shared'.unlocked, .reading p)
        | .error e =>
          if shared'.state.keys.keys.isEmpty then some (shared'.unlocked, .returned (.error e))
          else some (shared'.unlocked, .reading p)
    | _, _ => none
  | .read decodeNow claimsNow =>
    match c.pc with
    | .reading p => some (shared, shared.verified library v c.requiredScope p decodeNow claimsNow)
    | _ => none
  -- a future is dropped where it awaits
  | .drop =>
    match c.pc with
    | .waiting _ => some (shared, .dropped)
    | .fetching _ _ => some (shared.unlocked, .dropped)
    | _ => none

end JwksShared

/-! ## All the calls -/

/-- Where the background refresher is. -/
inductive RefresherPc
  | planning
  | sleeping (wakesAt : Instant)
  | fetching
  /-- It panicked, or was never spawned. -/
  | stopped
  deriving DecidableEq

/-- The shared state, the clock, the calls and the refresher. -/
structure JwksSystem (Key : Type) where
  shared : JwksShared Key
  clock : Instant
  calls : List VerifyCall
  refresher : RefresherPc

/-- One step of the system. -/
inductive JwksAction
  | tick (elapsed : ℕ)
  | call (authorization : Option String) (requiredScope : String)
  | step (i : ℕ) (action : CallAction)
  /-- The refresher works out how long to sleep. -/
  | plan
  | wake
  | refreshed (answer : JwksAnswer)

namespace JwksSystem

/-- A verifier that was just built, and its refresher, if it has one. -/
def initial (state : JwksState Key) (clock : Instant) (refresher : RefresherPc) : JwksSystem Key :=
  ⟨⟨state, false, none⟩, clock, [], refresher⟩

variable (library : Jwt.Library Key) (v : JwtVerifier)

/-- **One step of the system.** -/
def step (s : JwksSystem Key) : JwksAction → Option (JwksSystem Key)
  | .tick elapsed => some { s with clock := s.clock + elapsed }
  | .call authorization requiredScope =>
    some { s with calls := s.calls ++ [⟨authorization, requiredScope, s.clock, .entered⟩] }
  | .step i action =>
    (s.calls[i]?).bind (fun c =>
      (s.shared.callStep library v s.clock i c action).map (fun r =>
        { s with shared := r.1, calls := s.calls.set i { c with pc := r.2 } }))
  | .plan =>
    match s.refresher, v.remote with
    | .planning, some config =>
      if s.shared.poisoned then some { s with refresher := .stopped }
      else
        let state := s.shared.state
        let sleep := if s.clock < state.expiresAt then state.expiresAt - s.clock
          else config.refreshCooldown
        some { s with refresher := .sleeping (s.clock + sleep) }
    | _, _ => none
  | .wake =>
    match s.refresher with
    | .sleeping wakesAt =>
      if wakesAt ≤ s.clock then some { s with refresher := .fetching } else none
    | _ => none
  | .refreshed answer =>
    match s.refresher, v.remote with
    | .fetching, some config =>
      let (shared, goesOn) := s.shared.write s.clock (answer.fetched library config)
      some { s with shared := shared, refresher := if goesOn then .planning else .stopped }
    | _, _ => none

end JwksSystem

/-! ## What a step can do -/

/-- **The outcomes of a write.** -/
inductive Writes (shared : JwksShared Key) (clock : Instant) :
    Except AuthError (VerificationKeys Key × ℕ) → JwksShared Key → Bool → Prop
  | refused {result} (hp : shared.poisoned = true) : Writes shared clock result shared false
  | failed {e} (hp : shared.poisoned = false) :
    Writes shared clock (.error e)
      { shared with state := { shared.state with lastRefresh := clock } } true
  | replaced {keys ttl expiresAt} (hp : shared.poisoned = false)
    (hfits : instantAdd clock ttl = some expiresAt) :
    Writes shared clock (.ok (keys, ttl)) { shared with state := ⟨keys, expiresAt, clock⟩ } true
  | overflowed {keys ttl} (hp : shared.poisoned = false) (hover : instantAdd clock ttl = none) :
    Writes shared clock (.ok (keys, ttl))
      { shared with state := { shared.state with keys := keys }, poisoned := true } false

theorem writes_write (shared : JwksShared Key) (clock : Instant)
    (result : Except AuthError (VerificationKeys Key × ℕ)) :
    Writes shared clock result (shared.write clock result).1 (shared.write clock result).2 := by
  unfold JwksShared.write
  by_cases hp : shared.poisoned = true
  · rw [if_pos hp]
    exact .refused hp
  · have hsound : shared.poisoned = false := Bool.eq_false_iff.mpr hp
    rw [if_neg hp]
    cases result with
    | error e => exact .failed hsound
    | ok r =>
      obtain ⟨keys, ttl⟩ := r
      cases hadd : instantAdd clock ttl with
      | some expiresAt =>
        dsimp only
        rw [hadd]
        exact .replaced hsound hadd
      | none =>
        dsimp only
        rw [hadd]
        exact .overflowed hsound hadd

/-- **The moves of a call.** -/
inductive CallMoves (library : Jwt.Library Key) (v : JwtVerifier) (shared : JwksShared Key)
    (clock : Instant) (i : ℕ) (c : VerifyCall) : CallAction → JwksShared Key → CallPc → Prop
  | refused {earlier e} (hpc : c.pc = .entered)
    (hp : presentedToken library c.authorization = .error e) :
    CallMoves library v shared clock i c (.check earlier) shared (.returned (.error e))
  | localKeys {earlier p} (hpc : c.pc = .entered)
    (hp : presentedToken library c.authorization = .ok p) (hremote : v.remote = none) :
    CallMoves library v shared clock i c (.check earlier) shared (.reading p)
  | checked {earlier p config} (hpc : c.pc = .entered)
    (hp : presentedToken library c.authorization = .ok p) (hremote : v.remote = some config) :
    CallMoves library v shared clock i c (.check earlier) shared
      (shared.checked config.refreshCooldown clock earlier p (.waiting p))
  | locked {p} (hpc : c.pc = .waiting p) (hfree : shared.refreshLock = none) :
    CallMoves library v shared clock i c .acquire { shared with refreshLock := some i }
      (.rechecking p)
  | fetches {earlier p config} (hpc : c.pc = .rechecking p) (hremote : v.remote = some config)
    (hneeds : shared.checked config.refreshCooldown clock earlier p
      (.fetching p shared.state.lastRefresh) = .fetching p shared.state.lastRefresh) :
    CallMoves library v shared clock i c (.check earlier) shared
      (.fetching p shared.state.lastRefresh)
  | unlocks {earlier p config pc} (hpc : c.pc = .rechecking p) (hremote : v.remote = some config)
    (hpc' : shared.checked config.refreshCooldown clock earlier p
      (.fetching p shared.state.lastRefresh) = pc)
    (hends : pc = .panicked ∨ pc = .reading p) :
    CallMoves library v shared clock i c (.check earlier) shared.unlocked pc
  | answered {answer p seen config shared' goesOn pc} (hpc : c.pc = .fetching p seen)
    (hremote : v.remote = some config)
    (hwrites : Writes shared clock (answer.fetched library config) shared' goesOn)
    (hends : goesOn = false ∧ pc = .panicked ∨ goesOn = true ∧ (pc = .reading p
      ∨ shared'.state.keys.keys.isEmpty = true ∧ ∃ e, pc = .returned (.error e))) :
    CallMoves library v shared clock i c (.answer answer) shared'.unlocked pc
  | reads {p decodeNow claimsNow} (hpc : c.pc = .reading p) :
    CallMoves library v shared clock i c (.read decodeNow claimsNow) shared
      (shared.verified library v c.requiredScope p decodeNow claimsNow)
  | leftQueue {p} (hpc : c.pc = .waiting p) :
    CallMoves library v shared clock i c .drop shared .dropped
  | abandoned {p seen} (hpc : c.pc = .fetching p seen) :
    CallMoves library v shared clock i c .drop shared.unlocked .dropped

/-- **The moves of the system.** -/
inductive SystemMoves (library : Jwt.Library Key) (v : JwtVerifier) (s : JwksSystem Key) :
    JwksAction → JwksSystem Key → Prop
  | tick {elapsed} :
    SystemMoves library v s (.tick elapsed) { s with clock := s.clock + elapsed }
  | call {authorization requiredScope} :
    SystemMoves library v s (.call authorization requiredScope)
      { s with calls := s.calls ++ [⟨authorization, requiredScope, s.clock, .entered⟩] }
  | moves {i c action shared' pc} (hc : s.calls[i]? = some c)
    (hmove : CallMoves library v s.shared s.clock i c action shared' pc) :
    SystemMoves library v s (.step i action)
      { s with shared := shared', calls := s.calls.set i { c with pc := pc } }
  | sleeps {action refresher} (haction : action = .plan ∨ action = .wake) :
    SystemMoves library v s action { s with refresher := refresher }
  | refreshed {answer config shared' goesOn refresher} (hremote : v.remote = some config)
    (hwrites : Writes s.shared s.clock (answer.fetched library config) shared' goesOn) :
    SystemMoves library v s (.refreshed answer)
      { s with shared := shared', refresher := refresher }

section Moves

variable {library : Jwt.Library Key} {v : JwtVerifier} {shared shared' : JwksShared Key}
  {clock : Instant} {i : ℕ} {c : VerifyCall} {pc : CallPc}

/-- A pass through the condition goes on, goes to the key, or panics. -/
theorem checked_cases (shared : JwksShared Key) (cooldown : ℕ) (clock earlier : Instant)
    (p : PresentedToken) (go : CallPc) :
    (shared.checked cooldown clock earlier p go = go
        ∧ shared.state.lastRefresh + cooldown ≤ clock)
      ∨ (shared.checked cooldown clock earlier p go = .reading p
        ∧ ((shared.state.keys.lookup p.kid).isNone = false
          ∨ clock < shared.state.lastRefresh + cooldown))
      ∨ shared.checked cooldown clock earlier p go = .panicked := by
  unfold JwksShared.checked JwksState.needsFetch
  cases shared.poisoned with
  | true => exact Or.inr (Or.inr rfl)
  | false =>
    rw [if_neg Bool.false_ne_true]
    by_cases hstale : shared.state.expiresAt ≤ earlier ∨ (shared.state.keys.lookup p.kid).isNone
    · rw [if_pos hstale]
      cases hadd : instantAdd shared.state.lastRefresh cooldown with
      | none => exact Or.inr (Or.inr rfl)
      | some again =>
        have hsum : shared.state.lastRefresh + cooldown = again := by
          unfold instantAdd at hadd
          split at hadd
          · exact Option.some.inj hadd
          · cases hadd
        rw [Option.map_some, hsum]
        by_cases hle : again ≤ clock
        · rw [decide_eq_true hle]
          exact Or.inl ⟨rfl, hle⟩
        · rw [decide_eq_false hle]
          exact Or.inr (Or.inl ⟨rfl, Or.inr (not_le.mp hle)⟩)
    · rw [if_neg hstale]
      refine Or.inr (Or.inl ⟨rfl, Or.inl ?_⟩)
      exact Bool.eq_false_iff.mpr (fun hnone => hstale (Or.inr hnone))

/-- Every step of a call is one of its moves. -/
theorem callMoves_of_callStep {action : CallAction}
    (h : shared.callStep library v clock i c action = some (shared', pc)) :
    CallMoves library v shared clock i c action shared' pc := by
  cases action with
  | check earlier =>
    simp only [JwksShared.callStep] at h
    split at h
    · cases hpc : c.pc with
      | entered =>
        rw [hpc] at h
        dsimp only at h
        cases hp : presentedToken library c.authorization with
        | error e =>
          rw [hp] at h
          obtain ⟨rfl, rfl⟩ := Prod.mk.inj (Option.some.inj h)
          exact .refused hpc hp
        | ok p =>
          rw [hp] at h
          dsimp only at h
          cases hremote : v.remote with
          | none =>
            rw [hremote] at h
            obtain ⟨rfl, rfl⟩ := Prod.mk.inj (Option.some.inj h)
            exact .localKeys hpc hp hremote
          | some config =>
            rw [hremote] at h
            obtain ⟨rfl, rfl⟩ := Prod.mk.inj (Option.some.inj h)
            exact .checked hpc hp hremote
      | rechecking p =>
        rw [hpc] at h
        dsimp only at h
        cases hremote : v.remote with
        | none =>
          rw [hremote] at h
          cases h
        | some config =>
          rw [hremote] at h
          dsimp only at h
          obtain ⟨hgo, -⟩ | ⟨hread, -⟩ | hpanic := checked_cases shared config.refreshCooldown
            clock earlier p (.fetching p shared.state.lastRefresh)
          · rw [hgo] at h
            obtain ⟨rfl, rfl⟩ := Prod.mk.inj (Option.some.inj h)
            exact .fetches hpc hremote hgo
          · rw [hread] at h
            obtain ⟨rfl, rfl⟩ := Prod.mk.inj (Option.some.inj h)
            exact .unlocks hpc hremote hread (Or.inr rfl)
          · rw [hpanic] at h
            obtain ⟨rfl, rfl⟩ := Prod.mk.inj (Option.some.inj h)
            exact .unlocks hpc hremote hpanic (Or.inl rfl)
      | _ =>
        rw [hpc] at h
        cases h
    · cases h
  | acquire =>
    simp only [JwksShared.callStep] at h
    split at h
    · rename_i p hpc
      split at h
      · obtain ⟨rfl, rfl⟩ := Prod.mk.inj (Option.some.inj h)
        exact .locked hpc ‹_›
      · cases h
    · cases h
  | answer answer =>
    simp only [JwksShared.callStep] at h
    split at h
    · rename_i p seen config hpc hremote
      have hwrites := writes_write shared clock (answer.fetched library config)
      split at h
      · rename_i sh hsh
        rw [hsh] at hwrites
        obtain ⟨rfl, rfl⟩ := Prod.mk.inj (Option.some.inj h)
        exact .answered hpc hremote hwrites (Or.inl ⟨rfl, rfl⟩)
      · rename_i sh hsh
        rw [hsh] at hwrites
        split at h
        · obtain ⟨rfl, rfl⟩ := Prod.mk.inj (Option.some.inj h)
          exact .answered hpc hremote hwrites (Or.inr ⟨rfl, Or.inl rfl⟩)
        · rename_i e he
          split at h
          · rename_i hempty
            obtain ⟨rfl, rfl⟩ := Prod.mk.inj (Option.some.inj h)
            exact .answered hpc hremote hwrites (Or.inr ⟨rfl, Or.inr ⟨hempty, e, rfl⟩⟩)
          · obtain ⟨rfl, rfl⟩ := Prod.mk.inj (Option.some.inj h)
            exact .answered hpc hremote hwrites (Or.inr ⟨rfl, Or.inl rfl⟩)
    · cases h
  | read decodeNow claimsNow =>
    simp only [JwksShared.callStep] at h
    split at h
    · rename_i p hpc
      obtain ⟨rfl, rfl⟩ := Prod.mk.inj (Option.some.inj h)
      exact .reads hpc
    · cases h
  | drop =>
    simp only [JwksShared.callStep] at h
    split at h
    · rename_i p hpc
      obtain ⟨rfl, rfl⟩ := Prod.mk.inj (Option.some.inj h)
      exact .leftQueue hpc
    · rename_i p seen hpc
      obtain ⟨rfl, rfl⟩ := Prod.mk.inj (Option.some.inj h)
      exact .abandoned hpc
    · cases h

/-- Every step of the system is one of its moves. -/
theorem systemMoves_of_step {s t : JwksSystem Key} {a : JwksAction}
    (h : s.step library v a = some t) : SystemMoves library v s a t := by
  cases a with
  | tick elapsed =>
    obtain rfl := Option.some.inj h
    exact .tick
  | call authorization requiredScope =>
    obtain rfl := Option.some.inj h
    exact .call
  | step i action =>
    obtain ⟨c, hc, h⟩ := Option.bind_eq_some_iff.mp h
    obtain ⟨⟨shared', pc⟩, hstep, rfl⟩ := Option.map_eq_some_iff.mp h
    exact .moves hc (callMoves_of_callStep hstep)
  | plan =>
    simp only [JwksSystem.step] at h
    split at h
    · split at h
      · obtain rfl := Option.some.inj h
        exact .sleeps (Or.inl rfl)
      · obtain rfl := Option.some.inj h
        exact .sleeps (Or.inl rfl)
    · cases h
  | wake =>
    simp only [JwksSystem.step] at h
    split at h
    · split at h
      · obtain rfl := Option.some.inj h
        exact .sleeps (Or.inr rfl)
      · cases h
    · cases h
  | refreshed answer =>
    simp only [JwksSystem.step] at h
    split at h
    · rename_i config hrefresher hremote
      obtain rfl := Option.some.inj h
      exact .refreshed hremote (writes_write s.shared s.clock (answer.fetched library config))
    · cases h

/-! ## What the moves keep -/

namespace Writes

variable {result : Except AuthError (VerificationKeys Key × ℕ)} {goesOn : Bool}

theorem refreshLock (h : Writes shared clock result shared' goesOn) :
    shared'.refreshLock = shared.refreshLock := by
  cases h <;> rfl

/-- The time of the last answer is now, or what it was. -/
theorem lastRefresh (h : Writes shared clock result shared' goesOn) :
    shared'.state.lastRefresh = clock
      ∨ shared'.state.lastRefresh = shared.state.lastRefresh := by
  cases h with
  | refused _ => exact Or.inr rfl
  | failed _ => exact Or.inl rfl
  | replaced _ _ => exact Or.inl rfl
  | overflowed _ _ => exact Or.inr rfl

/-- A caller that goes on has written the time. -/
theorem lastRefresh_eq (h : Writes shared clock result shared' true) :
    shared'.state.lastRefresh = clock := by
  cases h <;> rfl

/-- A write that leaves the lock sound has written the time, or nothing. -/
theorem fresh (h : Writes shared clock result shared' goesOn) (hp : shared'.poisoned = false) :
    shared'.state.lastRefresh = clock := by
  cases h with
  | refused hpoisoned => exact absurd (hp.symm.trans hpoisoned) Bool.false_ne_true
  | failed _ => rfl
  | replaced _ _ => rfl
  | overflowed _ _ => cases hp

end Writes

/-- What a move of a call does to the keys: nothing, or it writes them. -/
theorem CallMoves.state {action : CallAction}
    (h : CallMoves library v shared clock i c action shared' pc) :
    (shared'.state = shared.state ∧ shared'.poisoned = shared.poisoned)
      ∨ ∃ answer config written goesOn, action = .answer answer ∧ v.remote = some config
        ∧ Writes shared clock (answer.fetched library config) written goesOn
        ∧ shared'.state = written.state ∧ shared'.poisoned = written.poisoned := by
  cases h with
  | answered _ hremote hwrites _ => exact Or.inr ⟨_, _, _, _, rfl, hremote, hwrites, rfl, rfl⟩
  | _ => exact Or.inl ⟨rfl, rfl⟩

/-- What a move of a call does to the mutex: nothing, or it takes it, or it gives it back. -/
theorem CallMoves.lock {action : CallAction}
    (h : CallMoves library v shared clock i c action shared' pc) :
    (shared'.refreshLock = shared.refreshLock ∧ (pc.holdsLock = true → c.pc.holdsLock = true))
      ∨ (shared.refreshLock = none ∧ shared'.refreshLock = some i)
      ∨ (c.pc.holdsLock = true ∧ pc.holdsLock = false) := by
  cases h with
  | refused _ _ => exact Or.inl ⟨rfl, fun hpc => nomatch hpc⟩
  | localKeys _ _ _ => exact Or.inl ⟨rfl, fun hpc => nomatch hpc⟩
  | @checked earlier p config _ _ _ =>
    refine Or.inl ⟨rfl, fun hholds => ?_⟩
    obtain ⟨hpc, -⟩ | ⟨hpc, -⟩ | hpc := checked_cases shared config.refreshCooldown clock earlier p
      (.waiting p) <;> rw [hpc] at hholds <;> cases hholds
  | locked _ hfree => exact Or.inr (Or.inl ⟨hfree, rfl⟩)
  | fetches hpc _ _ => exact Or.inl ⟨rfl, fun _ => hpc ▸ rfl⟩
  | unlocks hpc _ _ hends =>
    refine Or.inr (Or.inr ⟨hpc ▸ rfl, ?_⟩)
    obtain rfl | rfl := hends <;> rfl
  | answered hpc _ _ hends =>
    refine Or.inr (Or.inr ⟨hpc ▸ rfl, ?_⟩)
    obtain ⟨-, rfl⟩ | ⟨-, rfl | ⟨-, _, rfl⟩⟩ := hends <;> rfl
  | reads _ =>
    refine Or.inl ⟨rfl, fun hholds => ?_⟩
    unfold JwksShared.verified at hholds
    split at hholds <;> cases hholds
  | leftQueue _ => exact Or.inl ⟨rfl, fun hpc => nomatch hpc⟩
  | abandoned hpc => exact Or.inr (Or.inr ⟨hpc ▸ rfl, rfl⟩)

/-- The token of a call is the one that was read when it entered. -/
theorem CallMoves.token {action : CallAction} {p : PresentedToken}
    (h : CallMoves library v shared clock i c action shared' pc) (hp : pc.token = some p) :
    c.pc.token = some p ∨ presentedToken library c.authorization = .ok p := by
  cases h with
  | refused _ _ => cases hp
  | localKeys _ hok _ =>
    obtain rfl := Option.some.inj hp
    exact Or.inr hok
  | @checked earlier q config _ hok _ =>
    obtain ⟨hpc, -⟩ | ⟨hpc, -⟩ | hpc := checked_cases shared config.refreshCooldown clock earlier q
      (.waiting q) <;> rw [hpc] at hp
    · obtain rfl := Option.some.inj hp
      exact Or.inr hok
    · obtain rfl := Option.some.inj hp
      exact Or.inr hok
    · cases hp
  | locked hpc _ => exact Or.inl (hpc ▸ hp)
  | fetches hpc _ _ => exact Or.inl (hpc ▸ hp)
  | unlocks hpc _ _ hends =>
    obtain rfl | rfl := hends
    · cases hp
    · exact Or.inl (hpc ▸ hp)
  | answered hpc _ _ hends =>
    obtain ⟨-, rfl⟩ | ⟨-, rfl | ⟨-, _, rfl⟩⟩ := hends
    · cases hp
    · exact Or.inl (hpc ▸ hp)
    · cases hp
  | reads _ =>
    unfold JwksShared.verified at hp
    split at hp <;> cases hp
  | leftQueue _ => cases hp
  | abandoned _ => cases hp

/-- A call whose request is out after a move has just looked again, and the last answer is a
cooldown old. -/
theorem CallMoves.seen {action : CallAction} {lastRefresh : Instant}
    (h : CallMoves library v shared clock i c action shared' pc)
    (hseen : pc.seen = some lastRefresh) :
    ∃ p config, c.pc = .rechecking p ∧ v.remote = some config ∧ shared' = shared
      ∧ lastRefresh = shared.state.lastRefresh
      ∧ shared.state.lastRefresh + config.refreshCooldown ≤ clock := by
  cases h with
  | @checked earlier p config _ _ _ =>
    obtain ⟨hpc, -⟩ | ⟨hpc, -⟩ | hpc := checked_cases shared config.refreshCooldown clock earlier p
      (.waiting p) <;> rw [hpc] at hseen <;> cases hseen
  | @fetches earlier p config hpc hremote hneeds =>
    refine ⟨p, config, hpc, hremote, rfl, (Option.some.inj hseen).symm, ?_⟩
    obtain ⟨-, hle⟩ | ⟨hread, -⟩ | hpanic := checked_cases shared config.refreshCooldown clock
      earlier p (.fetching p shared.state.lastRefresh)
    · exact hle
    · rw [hread] at hneeds
      cases hneeds
    · rw [hpanic] at hneeds
      cases hneeds
  | unlocks _ _ _ hends => obtain rfl | rfl := hends <;> cases hseen
  | answered _ _ _ hends =>
    obtain ⟨-, rfl⟩ | ⟨-, rfl | ⟨-, _, rfl⟩⟩ := hends <;> cases hseen
  | reads _ =>
    unfold JwksShared.verified at hseen
    split at hseen <;> cases hseen
  | _ => cases hseen

end Moves

/-! ## The calls of a system -/

section Lists

variable {α : Type*} {l : List α} {i j : ℕ} {b c : α}

theorem getElem?_set_cases (h : (l.set i b)[j]? = some c) :
    j = i ∧ c = b ∨ j ≠ i ∧ l[j]? = some c := by
  rw [List.getElem?_set] at h
  by_cases hij : i = j
  · rw [if_pos hij] at h
    split at h
    · exact Or.inl ⟨hij.symm, (Option.some.inj h).symm⟩
    · cases h
  · rw [if_neg hij] at h
    exact Or.inr ⟨Ne.symm hij, h⟩

theorem getElem?_concat_cases (h : (l ++ [b])[j]? = some c) : l[j]? = some c ∨ c = b := by
  rcases lt_trichotomy j l.length with hlt | rfl | hgt
  · rw [List.getElem?_append_left hlt] at h
    exact Or.inl h
  · rw [List.getElem?_concat_length] at h
    exact Or.inr (Option.some.inj h).symm
  · rw [List.getElem?_eq_none (by rw [List.length_append]; exact hgt)] at h
    cases h

end Lists
