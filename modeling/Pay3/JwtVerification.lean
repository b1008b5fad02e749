import Pay3.Config
import Pay3.RpcProviders
import Mathlib.Data.List.AList
import Mathlib.Data.List.DropRight
import Mathlib.Data.Finset.Insert

/-!
# Bearer tokens

A request carries a bearer token, which names the key it is signed with. The
verifier looks the name up among its keys, compares the algorithm of the token
with that of the key, has the JWT library check the signature and the
registered claims, checks the claims once more itself, and makes a principal of
them. The scopes of a principal come from three claims, and each is trimmed and
not empty.

The library is a parameter: how a token is spelled, which documents are key
sets and what a signature is are its own business. What is proved here is what
the verifier does around it. `verifyWith_eq_ok` says what was checked of a
token that gave a principal, whatever the library is.
-/

/-! ## Errors, claims and scopes -/

/-- `AuthError`. -/
inductive AuthError
  | missingBearerToken
  | invalidAuthorizationScheme
  | malformedBearerToken
  | missingKeyId
  | unknownKeyId
  | unsupportedAlgorithm
  | invalidKey
  | invalidJwks
  | duplicateKeyId (kid : String)
  | invalidToken
  | tokenExpired
  | tokenNotYetValid
  | invalidIssuer
  | invalidAudience
  | missingClaim (claim : String)
  | invalidSubject
  | invalidIssuedAt
  | missingScope (scope : String)
  | insufficientScope (scope : String)
  | remoteJwksFetchFailed (reason : String)
  deriving DecidableEq

/-- The words of a text: `split_whitespace`. -/
def splitWhitespace (text : String) : List String :=
  ((text.toList.splitOnP isRustWhitespace).filter (· ≠ [])).map String.ofList

/-- `split_once` at a character. -/
def splitOnce (c : Char) (text : String) : Option (String × String) :=
  match text.toList.span (· ≠ c) with
  | (_, []) => none
  | (before, _ :: after) => some (String.ofList before, String.ofList after)

/-- Trimming twice is trimming once. -/
theorem trimText_trimText (text : String) : trimText (trimText text) = trimText text := by
  have hdrop : ∀ l : List Char, (l.dropWhile isRustWhitespace).dropWhile isRustWhitespace
      = l.dropWhile isRustWhitespace := fun l => List.dropWhile_idempotent _ l
  unfold trimText
  rw [String.toList_ofList]
  congr 1
  -- what is dropped at the end leaves the first character in place
  have hfront : ∀ l : List Char, l.dropWhile isRustWhitespace = l →
      (l.reverse.dropWhile isRustWhitespace).reverse.dropWhile isRustWhitespace
        = (l.reverse.dropWhile isRustWhitespace).reverse := by
    intro l hl
    cases hcut : (l.reverse.dropWhile isRustWhitespace).reverse with
    | nil => rfl
    | cons c cs =>
      have hpre : c :: cs <+: l := by
        rw [← hcut, ← List.reverse_reverse l, List.reverse_prefix]
        simpa using List.dropWhile_suffix (l := l.reverse) isRustWhitespace
      obtain ⟨rest, rfl⟩ := hpre
      refine List.dropWhile_cons_of_neg (fun hc => ?_)
      rw [List.cons_append, List.dropWhile_cons_of_pos hc] at hl
      have hlen := congrArg List.length hl
      have hle := (List.dropWhile_suffix (l := cs ++ rest) isRustWhitespace).length_le
      rw [List.length_cons] at hlen
      omega
  rw [hfront _ (hdrop text.toList), List.reverse_reverse, hdrop]

/-- **A `ScopeSet`**: each of its scopes is trimmed and not empty. -/
structure ScopeSet where
  scopes : Finset String
  trimmed : ∀ scope ∈ scopes, trimText scope = scope ∧ scope ≠ ""

namespace ScopeSet

/-- `ScopeSet::default`. -/
def empty : ScopeSet := ⟨∅, fun _ h => absurd h (Finset.notMem_empty _)⟩

/-- `ScopeSet::insert`. -/
def insert (s : ScopeSet) (scope : String) : ScopeSet :=
  if h : trimText scope = "" then s
  else ⟨Insert.insert (trimText scope) s.scopes, by
    intro x hx
    rcases Finset.mem_insert.mp hx with rfl | hx
    · exact ⟨trimText_trimText scope, h⟩
    · exact s.trimmed x hx⟩

/-- `ScopeSet::extend`. -/
def extend (s : ScopeSet) (scopes : List String) : ScopeSet := scopes.foldl insert s

/-- `ScopeSet::contains`. -/
def contains (s : ScopeSet) (scope : String) : Bool := decide (scope ∈ s.scopes)

/-- `ScopeSet::require`. -/
def require (s : ScopeSet) (scope : String) : Except AuthError Unit :=
  if s.contains scope then .ok ()
  else if s.scopes = ∅ then .error (.missingScope scope)
  else .error (.insufficientScope scope)

theorem mem_insert {s : ScopeSet} {scope x : String} :
    x ∈ (s.insert scope).scopes ↔ x ∈ s.scopes ∨ trimText scope = x ∧ x ≠ "" := by
  unfold insert
  by_cases h : trimText scope = ""
  · rw [dif_pos h]
    exact ⟨Or.inl, fun hx => hx.elim id (fun hx => absurd (hx.1.symm.trans h) hx.2)⟩
  · rw [dif_neg h]
    simp only [Finset.mem_insert]
    constructor
    · rintro (rfl | hx)
      · exact Or.inr ⟨rfl, h⟩
      · exact Or.inl hx
    · rintro (hx | ⟨rfl, -⟩)
      · exact Or.inr hx
      · exact Or.inl rfl

/-- What a set is extended by. -/
theorem mem_extend {s : ScopeSet} {scopes : List String} {x : String} :
    x ∈ (s.extend scopes).scopes
      ↔ x ∈ s.scopes ∨ x ≠ "" ∧ ∃ scope ∈ scopes, trimText scope = x := by
  unfold extend
  induction scopes generalizing s with
  | nil => simp
  | cons scope scopes ih =>
    rw [List.foldl_cons, ih, mem_insert, or_assoc]
    refine or_congr_right ?_
    rw [List.exists_mem_cons_iff, and_or_left, and_comm]

theorem require_eq_ok {s : ScopeSet} {scope : String} {u : Unit} :
    s.require scope = .ok u ↔ scope ∈ s.scopes := by
  unfold require contains
  by_cases h : scope ∈ s.scopes
  · rw [decide_eq_true h, if_pos rfl]
    exact ⟨fun _ => h, fun _ => rfl⟩
  · rw [decide_eq_false h, if_neg Bool.false_ne_true]
    constructor
    · intro hok
      split at hok <;> cases hok
    · exact fun hin => absurd hin h

end ScopeSet

/-- `Audience`. -/
inductive Audience
  | one (audience : String)
  | many (audiences : List String)
  deriving DecidableEq

namespace Audience

/-- `Audience::contains`. -/
def contains (expected : String) : Audience → Bool
  | .one audience => decide (audience = expected)
  | .many audiences => audiences.any (fun audience => decide (audience = expected))

/-- `Audience::values`. -/
def values : Audience → List String
  | .one audience => [audience]
  | .many audiences => audiences

theorem contains_iff {a : Audience} {expected : String} :
    a.contains expected = true ↔ expected ∈ a.values := by
  cases a with
  | one audience => simp [contains, values, eq_comm]
  | many audiences => simp [contains, values]

end Audience

/-- `Claims`. -/
structure Claims where
  exp : ℕ
  nbf : ℕ
  iat : ℕ
  iss : String
  aud : Audience
  sub : String
  scope : Option String
  scopes : Option (List String)
  scp : Option (List String)
  deriving DecidableEq

/-- `Claims::scope_set`. A claim that is not there adds nothing. -/
def Claims.scopeSet (claims : Claims) : ScopeSet :=
  ((ScopeSet.empty.extend ((claims.scope.map splitWhitespace).getD [])).extend
    (claims.scopes.getD [])).extend (claims.scp.getD [])

/-- `Principal`. -/
structure Principal where
  subject : String
  issuer : String
  audience : List String
  scopes : ScopeSet

/-! ## The library -/

namespace Jwt

/-- `Algorithm`. -/
inductive Algorithm
  | hs256
  | hs384
  | hs512
  | es256
  | es384
  | rs256
  | rs384
  | rs512
  | ps256
  | ps384
  | ps512
  | edDSA
  deriving DecidableEq

/-- `KeyAlgorithm`: one that signs, or one that encrypts or is not known. -/
inductive KeyAlgorithm
  | signing (algorithm : Algorithm)
  | other
  deriving DecidableEq

/-- `ErrorKind`, as far as the verifier tells its cases apart. -/
inductive ErrorKind
  | expiredSignature
  | immatureSignature
  | invalidIssuer
  | invalidAudience
  | invalidSubject
  | invalidAlgorithm
  | missingRequiredClaim (claim : String)
  | other
  deriving DecidableEq

/-- `Header`. -/
structure Header where
  alg : Algorithm
  kid : Option String
  deriving DecidableEq

/-- `Validation`. -/
structure Validation where
  algorithm : Algorithm
  leeway : ℕ
  validateExp : Bool
  validateNbf : Bool
  requiredSpecClaims : List String
  issuers : List String
  audiences : List String
  deriving DecidableEq

/-- `Jwk`, with what `DecodingKey::from_jwk` makes of it. -/
structure Jwk (Key : Type) where
  keyId : Option String
  keyAlgorithm : Option KeyAlgorithm
  decodingKey : Option Key

/-- **The JWT library and the HTTP client**: `decode_header`, `decode` by the wall clock, the
key sets it reads, and how the status of an answer is shown. -/
structure Library (Key : Type) where
  decodeHeader : String → Option Header
  decode : String → Key → Validation → ℕ → Except ErrorKind Claims
  jwkSet : String → Option (List (Jwk Key))
  statusText : ℕ → String

end Jwt

/-! ## One token -/

/-- `VerificationKey`. -/
structure VerificationKey (Key : Type) where
  algorithm : Jwt.Algorithm
  key : Key

/-- The keys of a verifier, by their names. -/
abbrev VerificationKeys (Key : Type) := AList (fun _ : String => VerificationKey Key)

/-- `RemoteJwksConfig`. -/
structure RemoteJwksConfig where
  url : String
  timeout : ℕ
  defaultTtl : ℕ
  refreshCooldown : ℕ
  deriving DecidableEq

/-- A second of the monotonic clock. -/
def instantSecond : ℕ := 10 ^ 9

/-- `RemoteJwksConfig::new`. -/
def RemoteJwksConfig.new (url : String) : RemoteJwksConfig :=
  ⟨url, 5 * instantSecond, 300 * instantSecond, 5 * instantSecond⟩

/-- `JwtVerifier`, without the state its clones share. -/
structure JwtVerifier where
  issuer : String
  audience : String
  remote : Option RemoteJwksConfig
  leewaySeconds : ℕ
  deriving DecidableEq

/-- `map_jwt_error`. -/
def mapJwtError : Jwt.ErrorKind → AuthError
  | .expiredSignature => .tokenExpired
  | .immatureSignature => .tokenNotYetValid
  | .invalidIssuer => .invalidIssuer
  | .invalidAudience => .invalidAudience
  | .invalidSubject => .invalidSubject
  | .invalidAlgorithm => .unsupportedAlgorithm
  | .missingRequiredClaim claim => .missingClaim claim
  | .other => .invalidToken

/-- `bearer_token`. -/
def bearerToken (authorization : Option String) : Except AuthError String := do
  let authorization ← orError ((authorization.map trimText).filter (fun value => value ≠ ""))
    .missingBearerToken
  let (scheme, token) ← orError (splitOnce ' ' authorization) .invalidAuthorizationScheme
  ensure (eqIgnoreAsciiCase scheme "bearer") .invalidAuthorizationScheme
  let token := trimText token
  ensure (decide (token ≠ "" ∧ (splitWhitespace token).length = 1)) .malformedBearerToken
  pure token

namespace JwtVerifier

/-- `validation`. -/
def validation (v : JwtVerifier) (algorithm : Jwt.Algorithm) : Jwt.Validation :=
  ⟨algorithm, v.leewaySeconds, true, true, ["exp", "nbf", "iat", "iss", "aud", "sub"],
    [v.issuer], [v.audience]⟩

/-- `validate_claims`. -/
def validateClaims (v : JwtVerifier) (claims : Claims) (now : ℕ) : Except AuthError Unit := do
  ensure (decide (claims.iss = v.issuer)) .invalidIssuer
  ensure (claims.aud.contains v.audience) .invalidAudience
  ensure (decide (trimText claims.sub ≠ "")) .invalidSubject
  -- `saturating_add`
  ensure (decide (claims.iat ≤ min (now + v.leewaySeconds) u64Max)) .invalidIssuedAt
  ensure (decide (claims.nbf ≤ claims.exp)) .tokenNotYetValid
  ensure (decide (claims.iat ≤ claims.exp)) .invalidIssuedAt

variable {Key : Type} (library : Jwt.Library Key)

/-- **The part of `verify_token_async` after the key was found**; the wall clock is read in
`decode` and again for the claims. -/
def verifyWith (v : JwtVerifier) (token : String) (alg : Jwt.Algorithm) (key : VerificationKey Key)
    (decodeNow claimsNow : ℕ) : Except AuthError Principal := do
  ensure (decide (alg = key.algorithm)) .unsupportedAlgorithm
  let claims ← (library.decode token key.key (v.validation key.algorithm) decodeNow).mapError
    mapJwtError
  v.validateClaims claims claimsNow
  pure ⟨claims.sub, claims.iss, claims.aud.values, claims.scopeSet⟩

/-- `verify_token`. -/
def verifyToken (v : JwtVerifier) (keys : VerificationKeys Key) (token : String)
    (decodeNow claimsNow : ℕ) : Except AuthError Principal := do
  let header ← orError (library.decodeHeader token) .invalidToken
  let kid ← orError header.kid .missingKeyId
  let key ← orError (keys.lookup kid) .unknownKeyId
  v.verifyWith library token header.alg key decodeNow claimsNow

/-- `verify_bearer_with_scope`. -/
def verifyBearerWithScope (v : JwtVerifier) (keys : VerificationKeys Key)
    (authorization : Option String) (requiredScope : String) (decodeNow claimsNow : ℕ) :
    Except AuthError Principal := do
  let token ← bearerToken authorization
  let principal ← v.verifyToken library keys token decodeNow claimsNow
  principal.scopes.require requiredScope
  pure principal

/-! ## What was checked -/

/-- **The claims that make a principal**: what the verifier checks of them at a time. -/
structure Accepts (v : JwtVerifier) (claims : Claims) (now : ℕ) : Prop where
  issuer : claims.iss = v.issuer
  audience : v.audience ∈ claims.aud.values
  subject : trimText claims.sub ≠ ""
  issued : claims.iat ≤ now + v.leewaySeconds
  begins : claims.nbf ≤ claims.exp
  ends : claims.iat ≤ claims.exp

theorem accepts_of_validateClaims {v : JwtVerifier} {claims : Claims} {now : ℕ}
    (h : v.validateClaims claims now = .ok ()) : v.Accepts claims now := by
  unfold validateClaims at h
  obtain ⟨hissuer, h⟩ := ensure_bind_eq_ok.mp h
  obtain ⟨haudience, h⟩ := ensure_bind_eq_ok.mp h
  obtain ⟨hsubject, h⟩ := ensure_bind_eq_ok.mp h
  obtain ⟨hissued, h⟩ := ensure_bind_eq_ok.mp h
  obtain ⟨hbegins, h⟩ := ensure_bind_eq_ok.mp h
  exact ⟨of_decide_eq_true hissuer, Audience.contains_iff.mp haudience,
    of_decide_eq_true hsubject, (of_decide_eq_true hissued).trans (min_le_left _ _),
    of_decide_eq_true hbegins, of_decide_eq_true (ensure_eq_ok.mp h)⟩

/-- **A token that gave a principal** is of the algorithm of its key, the library decoded it
with that key, and the principal is made of claims that were checked. -/
theorem verifyWith_eq_ok {v : JwtVerifier} {token : String} {alg : Jwt.Algorithm}
    {key : VerificationKey Key} {decodeNow claimsNow : ℕ} {principal : Principal}
    (h : v.verifyWith library token alg key decodeNow claimsNow = .ok principal) :
    alg = key.algorithm ∧ ∃ claims,
      library.decode token key.key (v.validation key.algorithm) decodeNow = .ok claims
        ∧ v.Accepts claims claimsNow
        ∧ principal = ⟨claims.sub, claims.iss, claims.aud.values, claims.scopeSet⟩ := by
  unfold verifyWith at h
  obtain ⟨halg, h⟩ := ensure_bind_eq_ok.mp h
  obtain ⟨claims, hdecode, h⟩ := Except.bind_eq_ok.mp h
  obtain ⟨⟨⟩, hclaims, h⟩ := Except.bind_eq_ok.mp h
  exact ⟨of_decide_eq_true halg, claims, Except.mapError_eq_ok.mp hdecode,
    accepts_of_validateClaims hclaims, (Except.pure_eq_ok.mp h).symm⟩

/-- **What a principal stands for**: a bearer token whose key is among these, decoded with it
for its algorithm, and claims that were checked and have the scope. -/
structure Authenticates (v : JwtVerifier) (keys : VerificationKeys Key)
    (authorization : Option String) (requiredScope : String) (decodeNow claimsNow : ℕ)
    (principal : Principal) (token : String) (header : Jwt.Header) (key : VerificationKey Key)
    (claims : Claims) : Prop where
  bearer : bearerToken authorization = .ok token
  presented : library.decodeHeader token = some header
  found : header.kid.bind keys.lookup = some key
  algorithm : header.alg = key.algorithm
  decoded : library.decode token key.key (v.validation key.algorithm) decodeNow = .ok claims
  accepts : v.Accepts claims claimsNow
  scope : requiredScope ∈ claims.scopeSet.scopes
  made : principal = ⟨claims.sub, claims.iss, claims.aud.values, claims.scopeSet⟩

theorem verifyBearerWithScope_eq_ok {v : JwtVerifier} {keys : VerificationKeys Key}
    {authorization : Option String} {requiredScope : String} {decodeNow claimsNow : ℕ}
    {principal : Principal}
    (h : v.verifyBearerWithScope library keys authorization requiredScope decodeNow claimsNow
      = .ok principal) :
    ∃ token header key claims, v.Authenticates library keys authorization requiredScope
      decodeNow claimsNow principal token header key claims := by
  unfold verifyBearerWithScope at h
  obtain ⟨token, hbearer, h⟩ := Except.bind_eq_ok.mp h
  obtain ⟨principal', hverify, h⟩ := Except.bind_eq_ok.mp h
  obtain ⟨⟨⟩, hscope, h⟩ := Except.bind_eq_ok.mp h
  obtain rfl := Except.pure_eq_ok.mp h
  unfold verifyToken at hverify
  obtain ⟨header, hheader, hverify⟩ := Except.bind_eq_ok.mp hverify
  obtain ⟨kid, hkid, hverify⟩ := Except.bind_eq_ok.mp hverify
  obtain ⟨key, hkey, hverify⟩ := Except.bind_eq_ok.mp hverify
  obtain ⟨halg, claims, hdecode, haccepts, rfl⟩ := verifyWith_eq_ok library hverify
  refine ⟨token, header, key, claims, hbearer, orError_eq_ok.mp hheader, ?_, halg, hdecode,
    haccepts, ScopeSet.require_eq_ok.mp hscope, rfl⟩
  rw [orError_eq_ok.mp hkid]
  exact orError_eq_ok.mp hkey

end JwtVerifier

/-- **The scopes of a principal**: the words of `scope` and the trimmed values of the two
lists, without the empty ones. -/
theorem Claims.mem_scopeSet {claims : Claims} {x : String} :
    x ∈ claims.scopeSet.scopes
      ↔ x ≠ "" ∧ ((∃ word ∈ (claims.scope.map splitWhitespace).getD [], trimText word = x)
        ∨ (∃ value ∈ claims.scopes.getD [], trimText value = x)
        ∨ ∃ value ∈ claims.scp.getD [], trimText value = x) := by
  have hempty : x ∉ ScopeSet.empty.scopes := Finset.notMem_empty x
  unfold Claims.scopeSet
  rw [ScopeSet.mem_extend, ScopeSet.mem_extend, ScopeSet.mem_extend, or_iff_right hempty,
    ← and_or_left, ← and_or_left, or_assoc]
