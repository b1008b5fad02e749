import Pay3.JwksCache

/-!
# What the answers to calls mean

A call of `verify_bearer_with_scope_async` may wait for a mutex and for a
provider, while other calls and the refresher replace the keys. Still its
result is the one `verify_bearer_with_scope` computes from the keys at one
moment between the call's beginning and its end, whichever result it is
(`JwksSystem.result_of_run`). So a principal comes from a token that was checked
with a key the verifier had then, and with a remote key set this is a key for
one of the two algorithms the verifier takes from one
(`JwksSystem.principal_of_run`).
-/

variable {Key : Type}

/-! ## The keys of a set -/

/-- The keys of a remote set are for signatures by RSA or by an Edwards curve. -/
def VerificationKeys.Asymmetric (keys : VerificationKeys Key) : Prop :=
  ∀ kid key, keys.lookup kid = some key → key.algorithm = .rs256 ∨ key.algorithm = .edDSA

theorem jwkAlgorithm_eq_ok {keyAlgorithm : Option Jwt.KeyAlgorithm} {algorithm : Jwt.Algorithm}
    (h : jwkAlgorithm keyAlgorithm = .ok algorithm) : algorithm = .rs256 ∨ algorithm = .edDSA := by
  unfold jwkAlgorithm at h
  split at h
  · exact Or.inl (Except.ok.inj h).symm
  · exact Or.inr (Except.ok.inj h).symm
  · cases h

theorem asymmetric_insertJwks {jwks : List (Jwt.Jwk Key)} {keys keys' : VerificationKeys Key}
    (hkeys : keys.Asymmetric) (h : insertJwks jwks keys = .ok keys') : keys'.Asymmetric := by
  induction jwks generalizing keys with
  | nil =>
    obtain rfl := Except.ok.inj h
    exact hkeys
  | cons jwk jwks ih =>
    unfold insertJwks at h
    obtain ⟨kid, -, h⟩ := Except.bind_eq_ok.mp h
    obtain ⟨algorithm, halgorithm, h⟩ := Except.bind_eq_ok.mp h
    obtain ⟨key, -, h⟩ := Except.bind_eq_ok.mp h
    refine ih (fun name found hfound => ?_) h
    by_cases hname : name = kid
    · subst hname
      rw [AList.lookup_insert] at hfound
      obtain rfl := Option.some.inj hfound
      exact jwkAlgorithm_eq_ok halgorithm
    · rw [AList.lookup_insert_ne hname] at hfound
      exact hkeys name found hfound

/-- **A key set that was read** is not empty, and has keys of the two algorithms only. -/
theorem parseJwksKeys_eq_ok {library : Jwt.Library Key} {jwksJson : String}
    {keys : VerificationKeys Key} (h : parseJwksKeys library jwksJson = .ok keys) :
    keys.keys.isEmpty = false ∧ keys.Asymmetric := by
  unfold parseJwksKeys at h
  obtain ⟨jwks, -, h⟩ := Except.bind_eq_ok.mp h
  obtain ⟨keys', hinsert, h⟩ := Except.bind_eq_ok.mp h
  obtain ⟨hempty, h⟩ := ensure_bind_eq_ok.mp h
  obtain rfl := Except.pure_eq_ok.mp h
  refine ⟨by simpa using hempty, asymmetric_insertJwks (fun kid key hkey => ?_) hinsert⟩
  rw [AList.lookup_empty] at hkey
  cases hkey

theorem fetched_eq_ok {library : Jwt.Library Key} {config : RemoteJwksConfig}
    {answer : JwksAnswer} {keys : VerificationKeys Key} {ttl : ℕ}
    (h : answer.fetched library config = .ok (keys, ttl)) :
    keys.keys.isEmpty = false ∧ keys.Asymmetric := by
  cases answer with
  | sendFailed error => cases h
  | answered status cacheControl body =>
    obtain ⟨-, h⟩ := ensure_bind_eq_ok.mp h
    obtain ⟨text, -, h⟩ := Except.bind_eq_ok.mp h
    obtain ⟨keys', hkeys, h⟩ := Except.bind_eq_ok.mp h
    obtain ⟨rfl, -⟩ := Prod.mk.inj (Except.pure_eq_ok.mp h)
    exact parseJwksKeys_eq_ok hkeys

/-- What every answer's keys meet, the keys meet after a write. -/
theorem Writes.keys {P : VerificationKeys Key → Prop}
    {shared shared' : JwksShared Key} {clock : Instant} {goesOn : Bool}
    {result : Except AuthError (VerificationKeys Key × ℕ)}
    (h : Writes shared clock result shared' goesOn)
    (hread : ∀ keys ttl, result = .ok (keys, ttl) → P keys) (hkeys : P shared.state.keys) :
    P shared'.state.keys := by
  cases h with
  | refused _ => exact hkeys
  | failed _ => exact hkeys
  | replaced _ _ => exact hread _ _ rfl
  | overflowed _ _ => exact hread _ _ rfl

/-! ## The invariant -/

/-- **The invariant**: the keys have what `P` asks, and every call goes on with the token it
brought. -/
structure JwksSystem.Keyed (library : Jwt.Library Key) (P : VerificationKeys Key → Prop)
    (s : JwksSystem Key) : Prop where
  keys : P s.shared.state.keys
  presented : ∀ (i : ℕ) (c : VerifyCall) (p : PresentedToken),
    s.calls[i]? = some c → c.pc.token = some p → presentedToken library c.authorization = .ok p

namespace JwksSystem

variable {library : Jwt.Library Key} {v : JwtVerifier} {P : VerificationKeys Key → Prop}
  {s t u : JwksSystem Key}

/-- Every step keeps the invariant, if `P` holds of every key set that is read. -/
theorem Keyed.step {a : JwksAction} (hs : s.Keyed library P)
    (hread : ∀ answer config keys ttl, v.remote = some config →
      JwksAnswer.fetched library config answer = .ok (keys, ttl) → P keys)
    (h : s.step library v a = some t) : t.Keyed library P := by
  cases systemMoves_of_step h with
  | tick => exact ⟨hs.keys, hs.presented⟩
  | call =>
    refine ⟨hs.keys, fun i c p hc hp => ?_⟩
    rcases getElem?_concat_cases hc with hc | rfl
    · exact hs.presented i c p hc hp
    · cases hp
  | @moves i c action shared' pc hc hmove =>
    refine ⟨?_, fun j d p hd hp => ?_⟩
    · obtain ⟨hsame, -⟩ | ⟨answer, config, written, goesOn, -, hremote, hwrites, hkeys, -⟩ :=
        hmove.state
      · exact hsame ▸ hs.keys
      · show P shared'.state.keys
        rw [hkeys]
        exact hwrites.keys (fun keys ttl => hread answer config keys ttl hremote) hs.keys
    · rcases getElem?_set_cases hd with ⟨rfl, rfl⟩ | ⟨-, hd⟩
      · rcases hmove.token hp with hp | hp
        · exact hs.presented j c p hc hp
        · exact hp
      · exact hs.presented j d p hd hp
  | sleeps _ => exact ⟨hs.keys, hs.presented⟩
  | refreshed hremote hwrites =>
    exact ⟨hwrites.keys (fun keys ttl => hread _ _ keys ttl hremote) hs.keys, hs.presented⟩

theorem keyed_of_run {ops : List JwksAction}
    (hread : ∀ answer config keys ttl, v.remote = some config →
      JwksAnswer.fetched library config answer = .ok (keys, ttl) → P keys)
    (hcalls : s.calls = []) (hkeys : P s.shared.state.keys)
    (hr : runSteps (step library v) s ops = some u) : u.Keyed library P := by
  refine inv_of_run (I := Keyed library P) (P := fun _ _ => True)
    (fun _ _ _ hs _ h => hs.step hread h) ⟨hkeys, fun i c p hc _ => ?_⟩
    (stepsMeet_of_forall (fun _ _ => trivial) s ops) hr
  rw [hcalls] at hc
  cases hc

end JwksSystem

/-! ## The result of a call -/

namespace RotatedKeys

def claims : Claims :=
  ⟨200, 100, 100, "issuer", .one "api", "merchant", some "orders:read", none, none⟩

/-- A provider that has replaced the key `old` by the key `new`. -/
def library : Jwt.Library String where
  decodeHeader token := if token = "token" then some ⟨.edDSA, some "new"⟩ else none
  decode token key _ _ :=
    if token = "token" ∧ key = "new key" then .ok claims else .error .other
  jwkSet body :=
    if body = "jwks" then some [⟨some "new", some (.signing .edDSA), some "new key"⟩] else none
  statusText status := toString status

def config : RemoteJwksConfig := .new "https://issuer/jwks"

def verifier : JwtVerifier := ⟨"issuer", "api", some config, 0⟩

def keys : VerificationKeys String :=
  (∅ : VerificationKeys String).insert "old" ⟨.rs256, "old key"⟩

def state : JwksState String := ⟨keys, 300 * instantSecond, 0⟩

def start : JwksSystem String := JwksSystem.initial state 0 .planning

/-- A call that comes a cooldown later finds its key missing, and fetches it. -/
def ops (cacheControl : String) : List JwksAction :=
  [.tick (5 * instantSecond), .call (some "Bearer token") "orders:read",
    .step 0 (.check 0), .step 0 .acquire, .step 0 (.check 0),
    .step 0 (.answer (.answered 200 (some cacheControl) (.ok "jwks"))), .step 0 (.read 150 150)]

theorem asymmetric_keys : keys.Asymmetric := by
  intro kid key hkey
  unfold keys at hkey
  by_cases hname : kid = "old"
  · subst hname
    rw [AList.lookup_insert] at hkey
    exact Or.inl (congrArg VerificationKey.algorithm (Option.some.inj hkey).symm)
  · rw [AList.lookup_insert_ne hname, AList.lookup_empty] at hkey
    cases hkey

/-- It is given a principal. -/
theorem exists_principal : ∃ u c principal,
    runSteps (JwksSystem.step library verifier) start (ops "max-age=600") = some u
      ∧ u.calls[0]? = some c ∧ c.pc = .returned (.ok principal) := by
  have hrun : (runSteps (JwksSystem.step library verifier) start (ops "max-age=600")).any
      (fun u => (u.calls[0]?).any (fun c => match c.pc with
        | .returned (.ok _) => true
        | _ => false)) = true := by decide +kernel
  obtain ⟨u, hu, hcall⟩ := (Option.any_eq_true _ _).mp hrun
  obtain ⟨c, hc, hpc⟩ := (Option.any_eq_true _ _).mp hcall
  split at hpc
  · rename_i principal hreturned
    exact ⟨u, c, principal, hu, hc, hreturned⟩
  · cases hpc

end RotatedKeys

namespace JwksSystem

variable {library : Jwt.Library Key} {v : JwtVerifier} {s t u : JwksSystem Key}

/-- A header that is refused is refused with any keys. -/
theorem verifyBearerWithScope_of_error {authorization : Option String} {requiredScope : String}
    {keys : VerificationKeys Key} {decodeNow claimsNow : ℕ} {e : AuthError}
    (h : presentedToken library authorization = .error e) :
    v.verifyBearerWithScope library keys authorization requiredScope decodeNow claimsNow
      = .error e := by
  unfold presentedToken at h
  unfold JwtVerifier.verifyBearerWithScope JwtVerifier.verifyToken
  cases hbearer : bearerToken authorization with
  | error e' =>
    rw [hbearer] at h
    exact congrArg Except.error (Except.error.inj h)
  | ok token =>
    rw [hbearer] at h
    simp only [bind, Except.bind] at h ⊢
    cases hheader : orError (library.decodeHeader token) AuthError.invalidToken with
    | error e' =>
      rw [hheader] at h
      exact congrArg Except.error (Except.error.inj h)
    | ok header =>
      rw [hheader] at h
      dsimp only at h ⊢
      cases hkid : orError header.kid AuthError.missingKeyId with
      | error e' =>
        rw [hkid] at h
        exact congrArg Except.error (Except.error.inj h)
      | ok kid =>
        rw [hkid] at h
        cases h

/-- A token that was read is verified with the keys that are there. -/
theorem verifyBearerWithScope_of_ok {authorization : Option String} {requiredScope : String}
    {keys : VerificationKeys Key} {decodeNow claimsNow : ℕ} {p : PresentedToken}
    (h : presentedToken library authorization = .ok p) :
    v.verifyBearerWithScope library keys authorization requiredScope decodeNow claimsNow
      = (do
        let key ← orError (keys.lookup p.kid) .unknownKeyId
        let principal ← v.verifyWith library p.token p.alg key decodeNow claimsNow
        principal.scopes.require requiredScope
        pure principal) := by
  unfold presentedToken at h
  obtain ⟨token, hbearer, h⟩ := Except.bind_eq_ok.mp h
  obtain ⟨header, hheader, h⟩ := Except.bind_eq_ok.mp h
  obtain ⟨kid, hkid, h⟩ := Except.bind_eq_ok.mp h
  obtain rfl := Except.pure_eq_ok.mp h
  unfold JwtVerifier.verifyBearerWithScope JwtVerifier.verifyToken
  rw [hbearer]
  simp only [bind, Except.bind, hheader, hkid]
  cases orError (keys.lookup kid) AuthError.unknownKeyId <;> rfl

end JwksSystem

open JwksSystem in
/-- A move that returns is the refusal of a header, or the end of a call. -/
theorem CallMoves.result {library : Jwt.Library Key} {v : JwtVerifier}
    {shared shared' : JwksShared Key} {clock : Instant} {i : ℕ} {c : VerifyCall} {pc : CallPc}
    {action : CallAction} {result : Except AuthError Principal}
    (h : CallMoves library v shared clock i c action shared' pc)
    (hkeys : ∀ answer config written goesOn, v.remote = some config →
      Writes shared clock (JwksAnswer.fetched library config answer) written goesOn →
      written.state.keys.keys.isEmpty = false)
    (hpresented : ∀ p, c.pc.token = some p → presentedToken library c.authorization = .ok p)
    (hpc : pc = .returned result) :
    ∃ decodeNow claimsNow, result = v.verifyBearerWithScope library shared.state.keys
      c.authorization c.requiredScope decodeNow claimsNow := by
  subst hpc
  generalize hpc : CallPc.returned result = pc at h
  cases h with
  | refused _ hp =>
    refine ⟨0, 0, ?_⟩
    rw [verifyBearerWithScope_of_error hp]
    exact CallPc.returned.inj hpc
  | localKeys _ _ _ => cases hpc
  | @checked earlier p config _ _ _ =>
    obtain ⟨hgo, -⟩ | ⟨hread, -⟩ | hpanic := checked_cases shared config.refreshCooldown clock
      earlier p (.waiting p)
    · rw [hgo] at hpc
      cases hpc
    · rw [hread] at hpc
      cases hpc
    · rw [hpanic] at hpc
      cases hpc
  | unlocks _ _ _ hends => obtain rfl | rfl := hends <;> cases hpc
  | answered _ hremote hwrites hends =>
    obtain ⟨-, rfl⟩ | ⟨-, rfl | ⟨hempty, _, -⟩⟩ := hends
    · cases hpc
    · cases hpc
    · rw [hkeys _ _ _ _ hremote hwrites] at hempty
      cases hempty
  | @reads p decodeNow claimsNow hat =>
    refine ⟨decodeNow, claimsNow, ?_⟩
    unfold JwksShared.verified at hpc
    split at hpc
    · cases hpc
    · rw [verifyBearerWithScope_of_ok (hpresented p (hat ▸ rfl))]
      exact CallPc.returned.inj hpc
  | _ => cases hpc

/-- The call has come to its end, with a result or without one. -/
def CallPc.ended : CallPc → Bool
  | .returned _ | .panicked | .dropped => true
  | _ => false

/-- A call that ended does not move. -/
theorem CallMoves.not_ended {library : Jwt.Library Key} {v : JwtVerifier} {shared : JwksShared Key}
    {clock : Instant} {i : ℕ} {c : VerifyCall} {action : CallAction} {shared' : JwksShared Key}
    {pc : CallPc} (h : CallMoves library v shared clock i c action shared' pc) :
    c.pc.ended = false := by
  cases h with
  | refused hpc | localKeys hpc | checked hpc | locked hpc | fetches hpc | unlocks hpc
  | answered hpc | reads hpc | leftQueue hpc | abandoned hpc =>
    rw [hpc]
    rfl

/-- The call `i` began and has not ended. -/
def JwksSystem.Running (s : JwksSystem Key) (i : ℕ) : Prop :=
  ∃ c, s.calls[i]? = some c ∧ c.pc.ended = false

namespace JwksSystem

variable {library : Jwt.Library Key} {v : JwtVerifier} {s t u : JwksSystem Key}

/-- The step by which a call returned. -/
theorem exists_move_of_returned {ops : List JwksAction} {i : ℕ} {c : VerifyCall}
    {result : Except AuthError Principal} (hcalls : s.calls = [])
    (hr : runSteps (step library v) s ops = some u) (hc : u.calls[i]? = some c)
    (hpc : c.pc = .returned result) :
    ∃ before after t action d shared', ops = before ++ .step i action :: after
      ∧ runSteps (step library v) s before = some t ∧ t.calls[i]? = some d
      ∧ d.authorization = c.authorization ∧ d.requiredScope = c.requiredScope
      ∧ d.enteredAt = c.enteredAt
      ∧ CallMoves library v t.shared t.clock i d action shared' (.returned result) := by
  have hstart : ¬ s.calls[i]? = some c := by
    rw [hcalls]
    exact fun h => nomatch h
  obtain ⟨before, a, after, t, t', rfl, hbefore, hstep, hnot, hthen⟩ :=
    exists_step_of_run (p := fun x : JwksSystem Key => x.calls[i]? = some c) hstart hc hr
  cases systemMoves_of_step hstep with
  | tick => exact absurd hthen hnot
  | call =>
    rcases getElem?_concat_cases hthen with hthen | rfl
    · exact absurd hthen hnot
    · cases hpc
  | @moves j d action shared' pc hd hmove =>
    rcases getElem?_set_cases hthen with ⟨rfl, rfl⟩ | ⟨-, hthen⟩
    · exact ⟨before, after, t, action, d, shared', rfl, hbefore, hd, rfl, rfl, rfl,
        hpc ▸ hmove⟩
    · exact absurd hthen hnot
  | sleeps _ => exact absurd hthen hnot
  | refreshed _ _ => exact absurd hthen hnot

/-- The moment of a call. -/
theorem result_of_call {ops : List JwksAction} {i : ℕ} {c : VerifyCall}
    {result : Except AuthError Principal} (hcalls : s.calls = [])
    (hkeys : s.shared.state.keys.keys.isEmpty = false)
    (hr : runSteps (step library v) s ops = some u) (hc : u.calls[i]? = some c)
    (hpc : c.pc = .returned result) :
    ∃ before after t decodeNow claimsNow, ops = before ++ after
      ∧ runSteps (step library v) s before = some t ∧ t.Running i
      ∧ result = v.verifyBearerWithScope library t.shared.state.keys c.authorization
          c.requiredScope decodeNow claimsNow := by
  obtain ⟨before, after, t, action, d, shared', rfl, hbefore, hd, hauthorization, hscope, -,
    hmove⟩ := exists_move_of_returned hcalls hr hc hpc
  have hfilled := keyed_of_run (P := fun keys => keys.keys.isEmpty = false)
    (fun _ _ _ _ _ h => (fetched_eq_ok h).1) hcalls hkeys hbefore
  obtain ⟨decodeNow, claimsNow, hresult⟩ := hmove.result
    (fun _ _ _ _ _ hwrites => hwrites.keys (fun _ _ h => (fetched_eq_ok h).1) hfilled.keys)
    (fun p hp => hfilled.presented i d p hd hp) rfl
  rw [hauthorization, hscope] at hresult
  exact ⟨before, _, t, decodeNow, claimsNow, rfl, hbefore,
    ⟨d, hd, hmove.not_ended⟩, hresult⟩

/-- **Calls are atomic.** Whatever other calls, the refresher and the provider do while it
runs, a call that returns has the result that `verify_bearer_with_scope` computes from the keys
at one moment after the call began and before it ended. -/
theorem result_of_run {ops : List JwksAction} (hcalls : s.calls = [])
    (hkeys : s.shared.state.keys.keys.isEmpty = false)
    (hr : runSteps (step library v) s ops = some u) :
    ∀ i c result, u.calls[i]? = some c → c.pc = .returned result →
      ∃ before after t decodeNow claimsNow, ops = before ++ after
        ∧ runSteps (step library v) s before = some t ∧ t.Running i
        ∧ result = v.verifyBearerWithScope library t.shared.state.keys c.authorization
            c.requiredScope decodeNow claimsNow :=
  fun _ _ _ hc hpc => result_of_call hcalls hkeys hr hc hpc

/-- A call that fetched its key. -/
theorem result_of_rotatedKeys : ∃ u,
    runSteps (step RotatedKeys.library RotatedKeys.verifier) RotatedKeys.start
        (RotatedKeys.ops "max-age=600") = some u
      ∧ (∃ c result, u.calls[0]? = some c ∧ c.pc = .returned result)
      ∧ ∀ i c result, u.calls[i]? = some c → c.pc = .returned result →
        ∃ before after t decodeNow claimsNow, RotatedKeys.ops "max-age=600" = before ++ after
          ∧ runSteps (step RotatedKeys.library RotatedKeys.verifier) RotatedKeys.start before
              = some t ∧ t.Running i
          ∧ result = RotatedKeys.verifier.verifyBearerWithScope RotatedKeys.library
              t.shared.state.keys c.authorization c.requiredScope decodeNow claimsNow := by
  obtain ⟨u, c, principal, hu, hc, hpc⟩ := RotatedKeys.exists_principal
  exact ⟨u, hu, ⟨c, _, hc, hpc⟩, result_of_run rfl (by decide +kernel) hu⟩

/-- **A principal is authenticated.** With a remote key set, whatever happened since the
verifier was built, a principal comes from a bearer token that was decoded, for RSA or an
Edwards curve and with a key of the set the verifier had at one moment of the call, and from
claims that were checked and have the scope the call asks for. -/
theorem principal_of_run {ops : List JwksAction} {i : ℕ} {c : VerifyCall}
    {principal : Principal} (hcalls : s.calls = [])
    (hkeys : s.shared.state.keys.keys.isEmpty = false)
    (halgorithms : s.shared.state.keys.Asymmetric)
    (hr : runSteps (step library v) s ops = some u) (hc : u.calls[i]? = some c)
    (hpc : c.pc = .returned (.ok principal)) :
    ∃ before after t decodeNow claimsNow token header key claims, ops = before ++ after
      ∧ runSteps (step library v) s before = some t ∧ t.Running i
      ∧ (header.alg = .rs256 ∨ header.alg = .edDSA)
      ∧ v.Authenticates library t.shared.state.keys c.authorization c.requiredScope decodeNow
          claimsNow principal token header key claims := by
  obtain ⟨before, after, t, decodeNow, claimsNow, rfl, hbefore, hbegan, hresult⟩ :=
    result_of_call hcalls hkeys hr hc hpc
  obtain ⟨token, header, key, claims, hauth⟩ :=
    JwtVerifier.verifyBearerWithScope_eq_ok library hresult.symm
  have hkeyed := keyed_of_run (P := VerificationKeys.Asymmetric)
    (fun _ _ _ _ _ h => (fetched_eq_ok h).2) hcalls halgorithms hbefore
  obtain ⟨kid, -, hkey⟩ := Option.bind_eq_some_iff.mp hauth.found
  refine ⟨before, after, t, decodeNow, claimsNow, token, header, key, claims, rfl, hbefore,
    hbegan, ?_, hauth⟩
  rw [hauth.algorithm]
  exact hkeyed.keys kid key hkey

/-- The principal of a key that was fetched for the call. -/
theorem principal_of_rotatedKeys : ∃ u c principal,
    runSteps (step RotatedKeys.library RotatedKeys.verifier) RotatedKeys.start
        (RotatedKeys.ops "max-age=600") = some u
      ∧ u.calls[0]? = some c ∧ c.pc = .returned (.ok principal)
      ∧ ∃ before after t decodeNow claimsNow token header key claims,
        RotatedKeys.ops "max-age=600" = before ++ after
          ∧ runSteps (step RotatedKeys.library RotatedKeys.verifier) RotatedKeys.start before
              = some t ∧ t.Running 0
          ∧ (header.alg = .rs256 ∨ header.alg = .edDSA)
          ∧ RotatedKeys.verifier.Authenticates RotatedKeys.library t.shared.state.keys
              c.authorization c.requiredScope decodeNow claimsNow principal token header key
              claims := by
  obtain ⟨u, c, principal, hu, hc, hpc⟩ := RotatedKeys.exists_principal
  exact ⟨u, c, principal, hu, hc, hpc,
    principal_of_run rfl (by decide +kernel) RotatedKeys.asymmetric_keys hu hc hpc⟩

end JwksSystem
