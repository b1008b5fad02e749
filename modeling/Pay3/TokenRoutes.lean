import Pay3.Config
import Mathlib.Data.List.Nodup
import Mathlib.Data.List.Pairwise

/-!
# The paths of the tokens

Every token of a process has a service, and the router leads to it under four
paths: the address of the token in lower case and in its checksum spelling, and
both again behind the number of its chain.

A path that is registered twice makes the router panic when the process starts.
The configuration is checked for two tokens with one chain and one address; but
the two paths without the chain are the address alone, so that what is needed is
that no address is configured on two chains (`accepted_routes`).

A path is the list of its segments. The router is a parameter, with what is
relied on of it (`RouterLibrary`).
-/

/-! ## A router -/

section Router

/-- The panic of `Router::nest`. -/
inductive RouterPanic
  | prefixTaken (path : List (List Char))
  deriving DecidableEq

/-- Neither path begins the other. -/
def PathsApart (path path' : List (List Char)) : Prop := ¬ path <+: path' ∧ ¬ path' <+: path

instance (path path' : List (List Char)) : Decidable (PathsApart path path') :=
  inferInstanceAs (Decidable (¬ path <+: path' ∧ ¬ path' <+: path))

/-- A path without parameters: its segments are letters and digits. -/
def PlainPath (path : List (List Char)) : Prop :=
  path ≠ [] ∧ ∀ segment ∈ path, segment ≠ [] ∧ ∀ c ∈ segment, c.isAlphanum = true

/-- **The router**, which is `axum`'s, and what is relied on: nesting a service at
a path that has one panics, nesting it apart from every route and every nested
path does not, and a request goes to the nested service whose path alone begins
its own. The last two are relied on for paths without parameters. -/
structure RouterLibrary (σ : Type) where
  Router : Type
  new : List (List (List Char)) → Router
  nest : Router → List (List Char) → σ → Except RouterPanic Router
  merge : Router → σ → Router
  routes : Router → List (List (List Char))
  nested : Router → List (List (List Char) × σ)
  leadsTo : Router → List (List Char) → List (σ × List (List Char))
  routes_new : ∀ paths, routes (new paths) = paths
  nested_new : ∀ paths, nested (new paths) = []
  nested_merge : ∀ router service, nested (merge router service) = nested router
  routes_nest : ∀ router path service router', nest router path service = .ok router'
    → routes router' = routes router
  nested_nest : ∀ router path service router', nest router path service = .ok router'
    → nested router' = nested router ++ [(path, service)]
  nest_taken : ∀ router path service, path ∈ (nested router).map Prod.fst
    → nest router path service = .error (.prefixTaken path)
  nest_apart : ∀ router path service, PlainPath path
    → (∀ taken ∈ routes router ++ (nested router).map Prod.fst, PathsApart taken path)
    → ∃ router', nest router path service = .ok router'
  leadsTo_alone : ∀ router path p service, ((nested router).map Prod.fst).Nodup
    → (∀ taken ∈ (nested router).map Prod.fst, PlainPath taken)
    → (p, service) ∈ nested router → p <+: path
    → (∀ taken ∈ (nested router).map Prod.fst, taken <+: path → taken = p)
    → leadsTo router path = [(service, path.drop p.length)]

namespace RouterLibrary

variable {σ : Type} (lib : RouterLibrary σ)

/-- The paths of the nested services. -/
def prefixes (router : lib.Router) : List (List (List Char)) := (lib.nested router).map Prod.fst

/-- Several paths, one after the other. -/
def nestAll (router : lib.Router) (paths : List (List (List Char) × σ)) :
    Except RouterPanic lib.Router :=
  paths.foldlM (fun router path => lib.nest router path.1 path.2) router

variable {lib} {router router' : lib.Router} {paths : List (List (List Char) × σ)}

/-- **A router takes paths that are all new, and no others.** -/
theorem nested_nestAll (h : lib.nestAll router paths = .ok router') :
    lib.nested router' = lib.nested router ++ paths
      ∧ ((lib.prefixes router).Nodup → (lib.prefixes router').Nodup) := by
  induction paths generalizing router with
  | nil =>
    obtain rfl : router = router' := Except.ok.inj h
    exact ⟨(List.append_nil _).symm, id⟩
  | cons path paths ih =>
    obtain ⟨next, hnest, h⟩ := Except.bind_eq_ok.mp h
    change lib.nest router path.1 path.2 = .ok next at hnest
    have hnext := lib.nested_nest _ _ _ _ hnest
    obtain ⟨hnested, hnodup⟩ := ih h
    refine ⟨by rw [hnested, hnext, List.append_assoc]; rfl, fun hrouter => hnodup ?_⟩
    have hnew : path.1 ∉ lib.prefixes router := by
      intro htaken
      rw [lib.nest_taken _ _ _ htaken] at hnest
      cases hnest
    unfold prefixes
    rw [hnext, List.map_append]
    exact List.nodup_append.mpr ⟨hrouter, List.nodup_singleton _, fun a ha b hb hab =>
      hnew (List.mem_singleton.mp hb ▸ hab ▸ ha)⟩

/-- It takes plain paths if they and its routes are all apart. -/
theorem exists_nestAll (hplain : ∀ path ∈ paths, PlainPath path.1)
    (h : (lib.routes router ++ lib.prefixes router ++ paths.map Prod.fst).Pairwise PathsApart) :
    ∃ router', lib.nestAll router paths = .ok router' := by
  induction paths generalizing router with
  | nil => exact ⟨router, rfl⟩
  | cons path paths ih =>
    obtain ⟨next, hnest⟩ := lib.nest_apart router path.1 path.2 (hplain path List.mem_cons_self)
      (fun taken htaken =>
        (List.pairwise_append.mp h).2.2 taken htaken path.1 List.mem_cons_self)
    have hprefixes : lib.prefixes next = lib.prefixes router ++ [path.1] := by
      unfold prefixes
      rw [lib.nested_nest _ _ _ _ hnest, List.map_append]
      rfl
    have hnext : (lib.routes next ++ lib.prefixes next ++ paths.map Prod.fst).Pairwise
        PathsApart := by
      rw [lib.routes_nest _ _ _ _ hnest, hprefixes, ← List.append_assoc, List.append_assoc _ [_]]
      exact h
    obtain ⟨built, hbuilt⟩ := ih (fun p hp => hplain p (List.mem_cons_of_mem _ hp)) hnext
    exact ⟨built, Except.bind_eq_ok.mpr ⟨next, hnest, hbuilt⟩⟩

end RouterLibrary

end Router

/-! ## The spellings of an address -/

section Spellings

variable (keccak256 : List UInt8 → BitVec 256)

/-- `to_lower_hex`. -/
def toLowerHex (address : EvmAddress) : List Char := '0' :: 'x' :: hexDigits 40 address.toNat

/-- A digit of a hash. -/
def hashNibble (hash : BitVec 256) (index : ℕ) : ℕ := hash.toNat / 16 ^ (63 - index) % 16

/-- The letters of a hexadecimal number whose place in the hash is 8 or more, in
upper case. -/
def checksumDigits (hash : BitVec 256) : ℕ → List Char → List Char
  | _, [] => []
  | index, c :: digits =>
    (if 8 ≤ hashNibble hash index then c.toUpper else c) :: checksumDigits hash (index + 1) digits

/-- **`to_checksum_hex`**: the spelling of EIP-55. -/
def toChecksumHex (address : EvmAddress) : List Char :=
  let digits := hexDigits 40 address.toNat
  '0' :: 'x' :: checksumDigits (keccak256 (utf8 (String.ofList digits))) 0 digits

/-- What is true of the sixteen digits is true of those of a number. -/
theorem of_mem_hexDigits {P : Char → Prop} (hdigit : ∀ x < 16, P (Nat.digitChar x)) {c : Char}
    {n value : ℕ} (h : c ∈ hexDigits n value) : P c := by
  induction n generalizing value with
  | zero => cases h
  | succ n ih =>
    rw [hexDigits, List.mem_append, List.mem_singleton] at h
    obtain hinit | rfl := h
    · exact ih hinit
    · exact hdigit _ (Nat.mod_lt _ (by decide))

/-- A hexadecimal digit is a lower-case letter, if it is a letter. -/
theorem toLower_digitChar {c : Char} {n value : ℕ} (h : c ∈ hexDigits n value) :
    c.toLower = c ∧ c.toUpper.toLower = c :=
  of_mem_hexDigits (P := fun c => c.toLower = c ∧ c.toUpper.toLower = c) (by decide) h

/-- It is a letter or a digit, in upper case too. -/
theorem isAlphanum_digitChar {c : Char} {n value : ℕ} (h : c ∈ hexDigits n value) :
    c.isAlphanum = true ∧ c.toUpper.isAlphanum = true :=
  of_mem_hexDigits (P := fun c => c.isAlphanum = true ∧ c.toUpper.isAlphanum = true) (by decide) h

/-- A checksum is the same number. -/
theorem map_toLower_checksumDigits {hash : BitVec 256} {digits : List Char} {index : ℕ}
    (h : ∀ c ∈ digits, c.toLower = c ∧ c.toUpper.toLower = c) :
    (checksumDigits hash index digits).map Char.toLower = digits := by
  induction digits generalizing index with
  | nil => rfl
  | cons c digits ih =>
    rw [checksumDigits, List.map_cons, ih (fun d hd => h d (List.mem_cons_of_mem _ hd))]
    obtain ⟨hlower, hupper⟩ := h c List.mem_cons_self
    split_ifs
    · rw [hupper]
    · rw [hlower]

/-- So is a digit of a checksum. -/
theorem isAlphanum_checksumDigits {hash : BitVec 256} {digits : List Char} {index : ℕ}
    (h : ∀ c ∈ digits, c.isAlphanum = true ∧ c.toUpper.isAlphanum = true) :
    ∀ c ∈ checksumDigits hash index digits, c.isAlphanum = true := by
  induction digits generalizing index with
  | nil => nofun
  | cons d digits ih =>
    intro c hc
    obtain ⟨hplain, hupper⟩ := h d List.mem_cons_self
    rcases List.mem_cons.mp hc with rfl | hc
    · split_ifs
      · exact hupper
      · exact hplain
    · exact ih (fun d hd => h d (List.mem_cons_of_mem _ hd)) c hc

theorem map_toLower_toLowerHex (address : EvmAddress) :
    (toLowerHex address).map Char.toLower = toLowerHex address := by
  have hdigits : (hexDigits 40 address.toNat).map Char.toLower = hexDigits 40 address.toNat :=
    (List.map_congr_left (fun c hc => (toLower_digitChar hc).1)).trans (List.map_id _)
  show '0' :: 'x' :: (hexDigits 40 address.toNat).map Char.toLower = _
  rw [hdigits, toLowerHex]

theorem map_toLower_toChecksumHex (address : EvmAddress) :
    (toChecksumHex keccak256 address).map Char.toLower = toLowerHex address := by
  show '0' :: 'x' :: (checksumDigits _ 0 (hexDigits 40 address.toNat)).map Char.toLower = _
  rw [map_toLower_checksumDigits (fun c hc => toLower_digitChar hc), toLowerHex]

theorem toLowerHex_injective : Function.Injective toLowerHex := by
  intro a b h
  exact hexDigits_toNat_injective (by decide) (List.cons.inj (List.cons.inj h).2).2

/-- A segment that spells an address. -/
def Spells (segment : List Char) (address : EvmAddress) : Prop :=
  segment = toLowerHex address ∨ segment = toChecksumHex keccak256 address

variable {keccak256} {segment : List Char} {address address' : EvmAddress}

/-- **A segment spells one address at most.** -/
theorem Spells.unique (h : Spells keccak256 segment address)
    (h' : Spells keccak256 segment address') : address = address' := by
  have hlower : ∀ {a : EvmAddress}, Spells keccak256 segment a →
      segment.map Char.toLower = toLowerHex a := by
    intro a ha
    obtain rfl | rfl := ha
    · exact map_toLower_toLowerHex a
    · exact map_toLower_toChecksumHex keccak256 a
  exact toLowerHex_injective ((hlower h).symm.trans (hlower h'))

/-- It is letters and digits. -/
theorem Spells.plain (h : Spells keccak256 segment address) :
    segment ≠ [] ∧ ∀ c ∈ segment, c.isAlphanum = true := by
  have hprefix : ∀ {digits : List Char}, (∀ c ∈ digits, c.isAlphanum = true) →
      ∀ c ∈ '0' :: 'x' :: digits, c.isAlphanum = true := by
    intro digits hdigits c hc
    rcases List.mem_cons.mp hc with rfl | hc
    · rfl
    · rcases List.mem_cons.mp hc with rfl | hc
      · rfl
      · exact hdigits c hc
  obtain rfl | rfl := h
  · exact ⟨List.cons_ne_nil _ _, hprefix (fun c hc => (isAlphanum_digitChar hc).1)⟩
  · exact ⟨List.cons_ne_nil _ _,
      hprefix (isAlphanum_checksumDigits (fun c hc => isAlphanum_digitChar hc))⟩

/-- An address is no number of a chain. -/
theorem Spells.ne_toDigits (h : Spells keccak256 segment address) (chainId : ℕ) :
    segment ≠ Nat.toDigits 10 chainId := by
  intro heq
  have hmem : 'x' ∈ Nat.toDigits 10 chainId := by
    rw [← heq]
    obtain rfl | rfl := h <;> exact List.mem_cons_of_mem _ List.mem_cons_self
  exact absurd (Nat.isDigit_of_mem_toDigits (by decide) (by decide) hmem) (by decide)

end Spellings

/-! ## The router of a process -/

open Config

section TokenRouter

variable {σ : Type} (lib : RouterLibrary σ) (keccak256 : List UInt8 → BitVec 256)

/-- `MultiTokenRouteEntry`, with what its paths are made of. -/
structure MultiTokenRouteEntry (σ : Type) where
  chainId : ℕ
  tokenAddress : EvmAddress
  state : σ

/-- The paths of one token, in the order they are registered. -/
def entryPaths (entry : MultiTokenRouteEntry σ) : List (List (List Char)) :=
  let lowerAddr := toLowerHex entry.tokenAddress
  let checksumAddr := toChecksumHex keccak256 entry.tokenAddress
  let chain := Nat.toDigits 10 entry.chainId
  [[lowerAddr]] ++ (if checksumAddr ≠ lowerAddr then [[checksumAddr]] else [])
    ++ [[chain, lowerAddr]] ++ (if checksumAddr ≠ lowerAddr then [[chain, checksumAddr]] else [])

/-- The routes of the process itself. -/
def mainRoutes : List (List (List Char)) :=
  ["healthz", "readyz", "metrics"].map (fun name => [String.toList name])
    ++ [["v1", "tokens"].map String.toList]

/-- **`build_multi_token_router`**: the service of the first token is also there
without a path of its own. -/
def buildMultiTokenRouter (tokens : List (MultiTokenRouteEntry σ)) :
    Except RouterPanic lib.Router := do
  let router ← tokens.foldlM (fun router entry =>
    lib.nestAll router ((entryPaths keccak256 entry).map (fun path => (path, entry.state))))
    (lib.new mainRoutes)
  pure (match tokens.head? with
    | none => router
    | some entry => lib.merge router entry.state)

/-- The entries of `build_api_runtime`: one for each token. -/
def routeEntries (service : TokenInstanceConfig → σ) (config : AppConfig) :
    List (MultiTokenRouteEntry σ) :=
  config.tokens.map (fun token => ⟨token.chain.chainId, token.chain.tokenAddress, service token⟩)

/-- **A configuration routes**: the router is built, its paths are all different,
and each spelling of each token, with the chain and without, leads to the
service of that token and no other. -/
def Routes (service : TokenInstanceConfig → σ) (config : AppConfig) : Prop :=
  ∃ router, buildMultiTokenRouter lib keccak256 (routeEntries service config) = .ok router
    ∧ (lib.prefixes router).Nodup
    ∧ ∀ token ∈ config.tokens, ∀ segment, Spells keccak256 segment token.chain.tokenAddress →
      ∀ rest, lib.leadsTo router (segment :: rest) = [(service token, rest)]
        ∧ lib.leadsTo router (Nat.toDigits 10 token.chain.chainId :: segment :: rest)
          = [(service token, rest)]

variable {lib} {keccak256} {entry entry' : MultiTokenRouteEntry σ} {path : List (List Char)}

/-- A path is a spelling of the address, or the chain and a spelling. -/
theorem mem_entryPaths : path ∈ entryPaths keccak256 entry ↔
    ∃ segment, Spells keccak256 segment entry.tokenAddress
      ∧ (path = [segment] ∨ path = [Nat.toDigits 10 entry.chainId, segment]) := by
  have hexists : ∀ P : List Char → Prop,
      (∃ segment, Spells keccak256 segment entry.tokenAddress ∧ P segment)
        ↔ P (toLowerHex entry.tokenAddress) ∨ P (toChecksumHex keccak256 entry.tokenAddress) := by
    intro P
    constructor
    · rintro ⟨_, rfl | rfl, hP⟩
      · exact Or.inl hP
      · exact Or.inr hP
    · rintro (hP | hP)
      · exact ⟨_, Or.inl rfl, hP⟩
      · exact ⟨_, Or.inr rfl, hP⟩
  rw [hexists]
  unfold entryPaths
  by_cases hsame : toChecksumHex keccak256 entry.tokenAddress = toLowerHex entry.tokenAddress
  · simp [hsame]
  · simp only [ne_eq, hsame, not_false_iff, if_true, List.mem_append, List.mem_singleton]
    rw [or_assoc, or_or_or_comm]

/-- The paths of one token are all different. -/
theorem nodup_entryPaths (entry : MultiTokenRouteEntry σ) : (entryPaths keccak256 entry).Nodup := by
  unfold entryPaths
  by_cases hsame : toChecksumHex keccak256 entry.tokenAddress = toLowerHex entry.tokenAddress
  · simp [hsame]
  · simp [hsame, Ne.symm hsame]

/-- **Tokens with different addresses have no path in common.** -/
theorem disjoint_entryPaths (h : entry.tokenAddress ≠ entry'.tokenAddress) :
    (entryPaths keccak256 entry).Disjoint (entryPaths keccak256 entry') := by
  intro path hpath hpath'
  obtain ⟨segment, hspells, hshape⟩ := mem_entryPaths.mp hpath
  obtain ⟨segment', hspells', hshape'⟩ := mem_entryPaths.mp hpath'
  have hsegment : segment = segment' := by
    obtain rfl | rfl := hshape <;> obtain hshape' | hshape' := hshape' <;> simp_all
  exact h (hspells.unique (hsegment ▸ hspells'))

/-- A path of one token that begins a request for another is the whole of its
path: a number of a chain is no address. -/
theorem eq_of_begins {segment : List Char} {address : EvmAddress} {rest : List (List Char)}
    (hspells : Spells keccak256 segment address) (hpath : path ∈ entryPaths keccak256 entry) :
    (path <+: segment :: rest → path = [segment])
      ∧ ∀ chainId, path <+: Nat.toDigits 10 chainId :: segment :: rest →
        path = [Nat.toDigits 10 chainId, segment] := by
  obtain ⟨segment', hspells', rfl | rfl⟩ := mem_entryPaths.mp hpath
  · refine ⟨fun h => ?_, fun chainId h => ?_⟩
    · rw [(List.cons_prefix_cons.mp h).1]
    · exact absurd (List.cons_prefix_cons.mp h).1 (hspells'.ne_toDigits chainId)
  · refine ⟨fun h => ?_, fun chainId h => ?_⟩
    · exact absurd (List.cons_prefix_cons.mp h).1.symm (hspells.ne_toDigits entry.chainId)
    · obtain ⟨hchain, htail⟩ := List.cons_prefix_cons.mp h
      rw [hchain, (List.cons_prefix_cons.mp htail).1]

/-- Two paths of tokens that are not the same are apart. -/
theorem pathsApart_of_ne {path' : List (List Char)} (hpath : path ∈ entryPaths keccak256 entry)
    (hpath' : path' ∈ entryPaths keccak256 entry') (hne : path ≠ path') : PathsApart path path' := by
  have heq : ∀ {e e' : MultiTokenRouteEntry σ} {p p' : List (List Char)},
      p ∈ entryPaths keccak256 e → p' ∈ entryPaths keccak256 e' → p <+: p' → p = p' := by
    intro e e' p p' hp hp' hbegins
    obtain ⟨segment, hspells, rfl | rfl⟩ := mem_entryPaths.mp hp'
    · exact (eq_of_begins hspells hp).1 hbegins
    · exact (eq_of_begins hspells hp).2 _ hbegins
  exact ⟨fun h => hne (heq hpath hpath' h), fun h => hne (heq hpath' hpath h).symm⟩

/-- A path of a token has no parameters. -/
theorem plainPath_of_mem (h : path ∈ entryPaths keccak256 entry) : PlainPath path := by
  obtain ⟨segment, hspells, rfl | rfl⟩ := mem_entryPaths.mp h
  · refine ⟨List.cons_ne_nil _ _, fun s hs => ?_⟩
    rw [List.mem_singleton.mp hs]
    exact hspells.plain
  · refine ⟨List.cons_ne_nil _ _, fun s hs => ?_⟩
    rcases List.mem_cons.mp hs with rfl | hs
    · refine ⟨Nat.toDigits_ne_nil, fun c hc => ?_⟩
      rw [Char.isAlphanum, Nat.isDigit_of_mem_toDigits (by decide) (by decide) hc, Bool.or_true]
    · rw [List.mem_singleton.mp hs]
      exact hspells.plain

/-- The path starts with a digit. -/
def startsWithDigit : List (List Char) → Bool
  | (c :: _) :: _ => c.isDigit
  | _ => false

theorem startsWithDigit_toDigits (chainId : ℕ) (rest : List (List Char)) :
    startsWithDigit (Nat.toDigits 10 chainId :: rest) = true := by
  cases hdigits : Nat.toDigits 10 chainId with
  | nil => exact absurd hdigits Nat.toDigits_ne_nil
  | cons c digits =>
    have hmem : c ∈ Nat.toDigits 10 chainId := by
      rw [hdigits]
      exact List.mem_cons_self
    exact Nat.isDigit_of_mem_toDigits (by decide) (by decide) hmem

/-- A path of a token does: it starts with `0x` or the number of a chain. -/
theorem startsWithDigit_of_mem (h : path ∈ entryPaths keccak256 entry) :
    startsWithDigit path = true := by
  obtain ⟨segment, hspells, rfl | rfl⟩ := mem_entryPaths.mp h
  · obtain rfl | rfl := hspells <;> rfl
  · exact startsWithDigit_toDigits _ _

/-- So it is apart from the routes of the process. -/
theorem pathsApart_mainRoutes {route : List (List Char)} (hroute : route ∈ mainRoutes)
    (hpath : path ∈ entryPaths keccak256 entry) : PathsApart route path := by
  have hroutes : ∀ route ∈ mainRoutes, route ≠ [] ∧ startsWithDigit route = false := by decide
  obtain ⟨hroute, hletter⟩ := hroutes route hroute
  have hdigit := startsWithDigit_of_mem hpath
  have hsame : ∀ {p p' : List (List Char)}, p ≠ [] → p <+: p' →
      startsWithDigit p = startsWithDigit p' := by
    rintro (_ | ⟨segment, p⟩) p' hne ⟨rest, rfl⟩
    · exact absurd rfl hne
    · cases segment <;> rfl
  refine ⟨fun h => ?_, fun h => ?_⟩
  · rw [hsame hroute h, hdigit] at hletter
    cases hletter
  · have hne : path ≠ [] := by
      rintro rfl
      cases hdigit
    rw [hsame hne h, hletter] at hdigit
    cases hdigit

/-- What is nested: the paths of the tokens, in order. -/
def entryServices (keccak256 : List UInt8 → BitVec 256) (tokens : List (MultiTokenRouteEntry σ)) :
    List (List (List Char) × σ) :=
  tokens.flatMap (fun entry => (entryPaths keccak256 entry).map (fun path => (path, entry.state)))

theorem map_fst_entryServices (tokens : List (MultiTokenRouteEntry σ)) :
    (entryServices keccak256 tokens).map Prod.fst = tokens.flatMap (entryPaths keccak256) := by
  simp [entryServices, List.map_flatMap, Function.comp_def]

/-- The router is made of these. -/
theorem buildMultiTokenRouter_eq (tokens : List (MultiTokenRouteEntry σ)) :
    buildMultiTokenRouter lib keccak256 tokens
      = (lib.nestAll (lib.new mainRoutes) (entryServices keccak256 tokens)).map (fun router =>
        match tokens.head? with
        | none => router
        | some entry => lib.merge router entry.state) := by
  have hfold : ∀ (entries : List (MultiTokenRouteEntry σ)) (start : lib.Router),
      entries.foldlM (fun router entry => lib.nestAll router
          ((entryPaths keccak256 entry).map (fun path => (path, entry.state)))) start
        = lib.nestAll start (entryServices keccak256 entries) := by
    intro entries
    induction entries with
    | nil => exact fun start => rfl
    | cons entry entries ih =>
      intro start
      rw [List.foldlM_cons, entryServices, List.flatMap_cons]
      unfold RouterLibrary.nestAll at ih ⊢
      rw [List.foldlM_append]
      exact congrArg _ (funext ih)
  unfold buildMultiTokenRouter
  rw [hfold]
  cases lib.nestAll (lib.new mainRoutes) (entryServices keccak256 tokens) <;> rfl

/-- **A router that is built has the paths of the tokens**, and they are all different. -/
theorem nested_of_build {tokens : List (MultiTokenRouteEntry σ)} {router : lib.Router}
    (h : buildMultiTokenRouter lib keccak256 tokens = .ok router) :
    lib.nested router = entryServices keccak256 tokens
      ∧ (tokens.flatMap (entryPaths keccak256)).Nodup := by
  rw [buildMultiTokenRouter_eq] at h
  obtain ⟨built, hbuilt, rfl⟩ := Except.map_eq_ok.mp h
  obtain ⟨hnested, hnodup⟩ := RouterLibrary.nested_nestAll hbuilt
  rw [lib.nested_new, List.nil_append] at hnested
  have hmerged : lib.nested (match tokens.head? with
      | none => built
      | some entry => lib.merge built entry.state) = entryServices keccak256 tokens := by
    rw [← hnested]
    cases tokens.head? with
    | none => rfl
    | some entry => exact lib.nested_merge _ _
  refine ⟨hmerged, ?_⟩
  have hprefixes : lib.prefixes built = tokens.flatMap (entryPaths keccak256) := by
    rw [RouterLibrary.prefixes, hnested, map_fst_entryServices]
  rw [← hprefixes]
  refine hnodup ?_
  rw [RouterLibrary.prefixes, lib.nested_new]
  exact List.nodup_nil

/-- It is built if they are. -/
theorem exists_build {tokens : List (MultiTokenRouteEntry σ)}
    (h : (tokens.flatMap (entryPaths keccak256)).Nodup) :
    ∃ router, buildMultiTokenRouter lib keccak256 tokens = .ok router := by
  have hentry : ∀ p ∈ tokens.flatMap (entryPaths keccak256), ∃ entry : MultiTokenRouteEntry σ,
      p ∈ entryPaths keccak256 entry := by
    intro p hp
    obtain ⟨entry, -, hp⟩ := List.mem_flatMap.mp hp
    exact ⟨entry, hp⟩
  have hpaths : (tokens.flatMap (entryPaths keccak256)).Pairwise PathsApart := by
    refine h.imp_of_mem (fun {p p'} hp hp' hne => ?_)
    obtain ⟨_, hp⟩ := hentry p hp
    obtain ⟨_, hp'⟩ := hentry p' hp'
    exact pathsApart_of_ne hp hp' hne
  have hapart : (lib.routes (lib.new mainRoutes) ++ lib.prefixes (lib.new mainRoutes)
      ++ (entryServices keccak256 tokens).map Prod.fst).Pairwise PathsApart := by
    rw [lib.routes_new, RouterLibrary.prefixes, lib.nested_new, List.map_nil, List.append_nil,
      map_fst_entryServices]
    refine List.pairwise_append.mpr ⟨by decide, hpaths, fun route hroute p hp => ?_⟩
    obtain ⟨_, hp⟩ := hentry p hp
    exact pathsApart_mainRoutes hroute hp
  have hplain : ∀ p ∈ entryServices keccak256 tokens, PlainPath p.1 := by
    intro p hp
    obtain ⟨_, hp⟩ := hentry p.1 (map_fst_entryServices tokens ▸ List.mem_map_of_mem hp)
    exact plainPath_of_mem hp
  obtain ⟨built, hbuilt⟩ := RouterLibrary.exists_nestAll hplain hapart
  rw [buildMultiTokenRouter_eq, hbuilt]
  exact ⟨_, rfl⟩

/-- **An accepted configuration routes exactly when no address is configured on
two chains.** -/
theorem accepted_routes (lib : RouterLibrary σ) (keccak256 : List UInt8 → BitVec 256)
    (libs : ConfigLibraries) (service : TokenInstanceConfig → σ) (config : AppConfig)
    (h : validateProfile libs config = .ok ()) :
    Routes lib keccak256 service config
      ↔ ∀ token ∈ config.tokens, ∀ token' ∈ config.tokens,
        token.chain.tokenAddress = token'.chain.tokenAddress →
          token.chain.chainId = token'.chain.chainId := by
  have hpaths : (routeEntries service config).flatMap (entryPaths keccak256)
      = config.tokens.flatMap (fun token => entryPaths keccak256
        ⟨token.chain.chainId, token.chain.tokenAddress, service token⟩) := List.flatMap_map ..
  constructor
  · rintro ⟨router, hbuilt, -, -⟩ token htoken token' htoken' haddress
    have hnodup := (nested_of_build hbuilt).2
    rw [hpaths, List.nodup_flatMap] at hnodup
    by_contra hchain
    -- the two tokens have the address alone as a path in common
    have hne : token ≠ token' := fun heq => hchain (heq ▸ rfl)
    have hsymm : Std.Symm (Function.onFun List.Disjoint (fun token : TokenInstanceConfig =>
        entryPaths keccak256 ⟨token.chain.chainId, token.chain.tokenAddress, service token⟩)) :=
      ⟨fun _ _ hdisjoint => hdisjoint.symm⟩
    refine hnodup.2.forall htoken htoken' hne (mem_entryPaths.mpr ⟨_, Or.inl rfl, Or.inl rfl⟩)
      (mem_entryPaths.mpr ⟨_, Or.inl rfl, Or.inl ?_⟩)
    show [toLowerHex token.chain.tokenAddress] = [toLowerHex token'.chain.tokenAddress]
    rw [haddress]
  · intro hapart
    have hkeys := List.pairwise_map.mp (nodup_key_of_validateProfile h)
    have hnodup : ((routeEntries service config).flatMap (entryPaths keccak256)).Nodup := by
      rw [hpaths, List.nodup_flatMap]
      refine ⟨fun token _ => nodup_entryPaths _, hkeys.imp_of_mem ?_⟩
      intro token token' htoken htoken' hkey
      exact disjoint_entryPaths (fun haddress =>
        hkey (Prod.ext (hapart token htoken token' htoken' haddress) haddress))
    obtain ⟨router, hbuilt⟩ : ∃ router, buildMultiTokenRouter lib keccak256
        (routeEntries service config) = .ok router := exists_build hnodup
    have hservices := (nested_of_build hbuilt).1
    have hprefixes : (lib.nested router).map Prod.fst
        = (routeEntries service config).flatMap (entryPaths keccak256) := by
      rw [hservices, map_fst_entryServices]
    have hdistinct : ((lib.nested router).map Prod.fst).Nodup := hprefixes ▸ hnodup
    refine ⟨router, hbuilt, hdistinct, fun token htoken segment hspells rest => ?_⟩
    have hentry := List.mem_map_of_mem (f := fun token : TokenInstanceConfig =>
      MultiTokenRouteEntry.mk token.chain.chainId token.chain.tokenAddress (service token)) htoken
    have hnested : ∀ path ∈ entryPaths keccak256 (MultiTokenRouteEntry.mk token.chain.chainId
        token.chain.tokenAddress (service token)), (path, service token) ∈ lib.nested router := by
      intro path hpath
      rw [hservices]
      exact List.mem_flatMap.mpr ⟨_, hentry, List.mem_map_of_mem hpath⟩
    have hbegins : ∀ p ∈ (lib.nested router).map Prod.fst, ∃ entry, p ∈ entryPaths keccak256
        (entry : MultiTokenRouteEntry σ) := by
      intro p hp
      obtain ⟨entry, -, hp⟩ := List.mem_flatMap.mp (hprefixes ▸ hp)
      exact ⟨entry, hp⟩
    have hplain : ∀ p ∈ (lib.nested router).map Prod.fst, PlainPath p :=
      fun p hp => plainPath_of_mem (hbegins p hp).choose_spec
    constructor
    · exact lib.leadsTo_alone router _ _ _ hdistinct hplain
        (hnested _ (mem_entryPaths.mpr ⟨segment, hspells, Or.inl rfl⟩))
        (List.prefix_append [segment] rest)
        (fun p hp => (eq_of_begins hspells (hbegins p hp).choose_spec).1)
    · exact lib.leadsTo_alone router _ _ _ hdistinct hplain
        (hnested _ (mem_entryPaths.mpr ⟨segment, hspells, Or.inr rfl⟩))
        (List.prefix_append [_, segment] rest)
        (fun p hp => (eq_of_begins hspells (hbegins p hp).choose_spec).2 _)

end TokenRouter

/-! ## A router of a list -/

/-- A router that looks through its services. -/
structure ListRouter (σ : Type) where
  routes : List (List (List Char))
  nested : List (List (List Char) × σ)
  merged : Option σ
  deriving DecidableEq

namespace ListRouter

variable {σ : Type}

/-- It takes any path that it does not have. -/
def nest (router : ListRouter σ) (path : List (List Char)) (service : σ) :
    Except RouterPanic (ListRouter σ) :=
  if path ∈ router.nested.map Prod.fst then .error (.prefixTaken path)
  else .ok { router with nested := router.nested ++ [(path, service)] }

/-- The services whose paths begin the path of a request, and what they see of it. -/
def leadsTo (router : ListRouter σ) (path : List (List Char)) : List (σ × List (List Char)) :=
  (router.nested.filter (fun service => service.1.isPrefixOf path)).map
    (fun service => (service.2, path.drop service.1.length))

theorem nest_eq_ok {router router' : ListRouter σ} {path : List (List Char)} {service : σ}
    (h : router.nest path service = .ok router') :
    router' = { router with nested := router.nested ++ [(path, service)] } := by
  unfold nest at h
  split_ifs at h
  exact (Except.ok.inj h).symm

theorem routes_nest (router : ListRouter σ) (path : List (List Char)) (service : σ)
    (router' : ListRouter σ) (h : router.nest path service = .ok router') :
    router'.routes = router.routes := by
  rw [nest_eq_ok h]

theorem nested_nest (router : ListRouter σ) (path : List (List Char)) (service : σ)
    (router' : ListRouter σ) (h : router.nest path service = .ok router') :
    router'.nested = router.nested ++ [(path, service)] := by
  rw [nest_eq_ok h]

theorem nest_taken (router : ListRouter σ) (path : List (List Char)) (service : σ)
    (h : path ∈ router.nested.map Prod.fst) :
    router.nest path service = .error (.prefixTaken path) :=
  if_pos h

theorem nest_apart (router : ListRouter σ) (path : List (List Char)) (service : σ)
    (_ : PlainPath path)
    (h : ∀ taken ∈ router.routes ++ router.nested.map Prod.fst, PathsApart taken path) :
    ∃ router', router.nest path service = .ok router' :=
  ⟨_, if_neg (fun htaken => (h path (List.mem_append_right _ htaken)).1 (List.prefix_refl _))⟩

/-- A request leads to one service when the path of that service alone begins it. -/
theorem leadsTo_eq_singleton {router : ListRouter σ} {path p : List (List Char)} {service : σ}
    (hnodup : (router.nested.map Prod.fst).Nodup) (hmem : (p, service) ∈ router.nested)
    (hp : p <+: path) (hothers : ∀ p' ∈ router.nested.map Prod.fst, p' <+: path → p' = p) :
    router.leadsTo path = [(service, path.drop p.length)] := by
  have hfilter : router.nested.filter (fun entry => entry.1.isPrefixOf path)
      = [(p, service)] := by
    obtain ⟨routes, nested, merged⟩ := router
    induction nested with
    | nil => cases hmem
    | cons entry nested ih =>
      obtain ⟨hnew, htail⟩ := List.nodup_cons.mp hnodup
      by_cases hentry : entry.1 = p
      · -- the rest of the list has other paths, which begin something else
        have hrest : nested.filter (fun entry => entry.1.isPrefixOf path) = [] := by
          refine List.filter_eq_nil_iff.mpr (fun other hother hbegins => hnew ?_)
          have heq := hothers other.1 (List.mem_cons_of_mem _ (List.mem_map_of_mem hother))
            (List.isPrefixOf_iff_prefix.mp hbegins)
          exact hentry ▸ heq ▸ List.mem_map_of_mem hother
        have hself : entry = (p, service) := by
          obtain rfl | hold := List.mem_cons.mp hmem
          · rfl
          · exact absurd (List.mem_map_of_mem (f := Prod.fst) hold) (hentry ▸ hnew)
        rw [List.filter_cons_of_pos, hrest, hself]
        rw [hentry]
        exact List.isPrefixOf_iff_prefix.mpr hp
      · have hold : (p, service) ∈ nested := by
          obtain rfl | hold := List.mem_cons.mp hmem
          · exact absurd rfl hentry
          · exact hold
        rw [List.filter_cons_of_neg]
        · exact ih htail hold (fun p' hp' => hothers p' (List.mem_cons_of_mem _ hp'))
        · intro hbegins
          exact hentry (hothers entry.1 List.mem_cons_self
            (List.isPrefixOf_iff_prefix.mp hbegins))
  rw [leadsTo, hfilter]
  rfl

theorem leadsTo_alone (router : ListRouter σ) (path p : List (List Char)) (service : σ)
    (hnodup : (router.nested.map Prod.fst).Nodup)
    (_ : ∀ taken ∈ router.nested.map Prod.fst, PlainPath taken)
    (hmem : (p, service) ∈ router.nested) (hp : p <+: path)
    (hothers : ∀ taken ∈ router.nested.map Prod.fst, taken <+: path → taken = p) :
    router.leadsTo path = [(service, path.drop p.length)] :=
  leadsTo_eq_singleton hnodup hmem hp hothers

/-- **It is a router.** -/
abbrev library : RouterLibrary σ where
  Router := ListRouter σ
  new paths := ⟨paths, [], none⟩
  nest := nest
  merge router service := { router with merged := some service }
  routes := routes
  nested := nested
  leadsTo := leadsTo
  routes_new _ := rfl
  nested_new _ := rfl
  nested_merge _ _ := rfl
  routes_nest := routes_nest
  nested_nest := nested_nest
  nest_taken := nest_taken
  nest_apart := nest_apart
  leadsTo_alone := leadsTo_alone

end ListRouter

/-! ## One address on two chains -/

namespace TokenRoutes

/-- A token at one address, on a chain of its own. -/
def yamlTokenOn (chainId : ℕ) : TokenYamlConfig where
  chainId
  tokenAddress := "0x1111111111111111111111111111111111111111"
  treasuryAddress := "0x2222222222222222222222222222222222222222"
  problemFundsAddress := some "0x3333333333333333333333333333333333333333"
  rpcUrls := ["http://127.0.0.1:8545"]

/-- A file for some tokens. -/
def file (tokens : List TokenYamlConfig) : MultiTokenConfigFile where
  databaseUrl := some "postgres://pay3@127.0.0.1:5432/pay3"
  signer := { mode := "fake", keyRef := some "master-key" }
  tokens

/-- Libraries that read one file. -/
def libs (tokens : List TokenYamlConfig) : ConfigLibraries where
  parseSocketAddr _ := .ok ⟨[0, 0, 0, 0], 8080⟩
  yamlFromStr _ := .ok (file tokens)
  jsonFromStr _ := none

/-- The configuration of some tokens, if it is accepted. -/
def acceptedConfig (tokens : List TokenYamlConfig) : Option AppConfig :=
  ((fromYamlStr (libs tokens) [] "").toOption).filter
    (fun config => decide (validateProfile (libs tokens) config = .ok ()))

theorem acceptedConfig_eq_some {tokens : List TokenYamlConfig} {config : AppConfig}
    (h : acceptedConfig tokens = some config) :
    fromYamlStr (libs tokens) [] "" = .ok config
      ∧ validateProfile (libs tokens) config = .ok () := by
  obtain ⟨hloaded, haccepted⟩ := Option.filter_eq_some_iff.mp h
  exact ⟨Except.toOption_eq_some.mp hloaded, of_decide_eq_true haccepted⟩

/-- Two tokens at two addresses, on two chains. -/
def twoAddresses : List TokenYamlConfig :=
  [yamlTokenOn 1, { yamlTokenOn 137 with
    tokenAddress := "0x4444444444444444444444444444444444444444" }]

/-- Their configuration. -/
def twoAddressesConfig : AppConfig := (acceptedConfig twoAddresses).get (by decide +kernel)

/-- One address on two chains. -/
def oneAddress : List TokenYamlConfig := [yamlTokenOn 1, yamlTokenOn 137]

/-- Its configuration. -/
def oneAddressConfig : AppConfig := (acceptedConfig oneAddress).get (by decide +kernel)

end TokenRoutes

open TokenRoutes

theorem accepted_routes_two : Routes ListRouter.library (fun _ => 0) (fun token => token.chain.chainId)
    twoAddressesConfig :=
  (accepted_routes _ _ (libs twoAddresses) _ _
    (acceptedConfig_eq_some (Option.some_get _).symm).2).mpr (by decide +kernel)

/-- **An accepted configuration that does not route**: one address on two chains.
The router panics at the second token. -/
theorem same_address_panics :
    fromYamlStr (libs oneAddress) [] "" = .ok oneAddressConfig
      ∧ validateProfile (libs oneAddress) oneAddressConfig = .ok ()
      ∧ buildMultiTokenRouter ListRouter.library (fun _ => 0)
          (routeEntries (fun token => token.chain.chainId) oneAddressConfig)
        = .error (.prefixTaken [toLowerHex 0x1111111111111111111111111111111111111111])
      ∧ ¬ Routes ListRouter.library (fun _ => 0) (fun token => token.chain.chainId) oneAddressConfig := by
  have hconfig : acceptedConfig oneAddress = some oneAddressConfig := (Option.some_get _).symm
  obtain ⟨hloaded, haccepted⟩ := acceptedConfig_eq_some hconfig
  have hpanic : buildMultiTokenRouter ListRouter.library (fun _ => 0)
      (routeEntries (fun token => token.chain.chainId) oneAddressConfig)
        = .error (.prefixTaken [toLowerHex 0x1111111111111111111111111111111111111111]) := by
    decide +kernel
  refine ⟨hloaded, haccepted, hpanic, ?_⟩
  rintro ⟨router, hbuilt, -⟩
  rw [hpanic] at hbuilt
  cases hbuilt
