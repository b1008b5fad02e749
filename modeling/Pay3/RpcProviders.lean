import Pay3.RpcValues
import Mathlib.Data.List.MinMax
import Mathlib.Data.List.Rotate

/-!
# The pool of providers

A request goes to one provider after another, in an order that starts one
further along the pool each time. Providers that failed a short while ago are
left out, unless all of them did. A request for a block collects answers until
there are enough of them and compares their hashes; any other request takes the
first answer there is.

A provider is named by its position in the pool. What the providers answer to a
request, and when, is given as a function of the position; each of them is
asked once at most.
-/

/-- A reading of the monotonic clock, in nanoseconds. -/
abbrev Instant := ℕ

/-- `provider_cooldown`, in seconds. -/
def providerCooldown (consecutiveFailures : ℕ) : ℕ :=
  min (5 * 2 ^ min (consecutiveFailures - 1) 4) 60

/-- `RpcProviderHealth`. -/
structure RpcProviderHealth where
  consecutiveFailures : ℕ
  unavailableUntil : Option Instant
  deriving DecidableEq

namespace RpcProviderHealth

/-- `is_available`. -/
def isAvailable (h : RpcProviderHealth) (now : Instant) : Bool :=
  h.unavailableUntil.all (fun untilTime => decide (untilTime ≤ now))

/-- `record_success`. -/
def recordSuccess (_ : RpcProviderHealth) : RpcProviderHealth := ⟨0, none⟩

/-- `record_failure`; the counter has 32 bits and saturates. -/
def recordFailure (now : Instant) (h : RpcProviderHealth) : RpcProviderHealth :=
  let failures := min (h.consecutiveFailures + 1) (2 ^ 32 - 1)
  ⟨failures, some (now + providerCooldown failures * 1000000000)⟩

end RpcProviderHealth

/-- `ManagedRpcProvider`. -/
structure ManagedRpcProvider where
  providerId : String
  health : RpcProviderHealth
  deriving DecidableEq

/-- **`RpcProviderManager`**, as `with_min_provider_count` builds it. -/
structure RpcProviderManager where
  expectedChainId : ℕ
  minProviderCount : ℕ
  providers : List ManagedRpcProvider
  roundRobinCounter : ℕ
  enough : minProviderCount ≤ providers.length
  nonempty : providers ≠ []

/-- What a provider answers to a request, and when the answer is in. -/
structure Answer where
  response : Except RpcChainError JsonValue
  receivedAt : Instant

/-- A text occurs in another. -/
def occursIn (part : List UInt8) : List UInt8 → Bool
  | [] => part.isEmpty
  | byte :: rest => part.isPrefixOf (byte :: rest) || occursIn part rest

/-- `is_missing_safe_block_error`. -/
def isMissingSafeBlockError (error : RpcChainError) : Bool :=
  (match error with
    | .blockNotFound number => decide (number = u64Max)
    | _ => false)
  || occursIn (utf8 "safe block not found") ((utf8 error.display).map asciiLowercase)

/-- `is_provider_health_failure`. -/
def isProviderHealthFailure (error : RpcChainError) : Bool :=
  (match error with
    | .blockNotFound _ | .transactionNotFound _ => false
    | _ => true)
  && !isMissingSafeBlockError error

namespace RpcProviderManager

/-- The identifier of a provider. -/
def providerId (m : RpcProviderManager) (i : ℕ) : String :=
  ((m.providers[i]?).map ManagedRpcProvider.providerId).getD ""

/-- The manager with the health of one provider changed. -/
def setHealth (m : RpcProviderManager) (i : ℕ) (f : RpcProviderHealth → RpcProviderHealth) :
    RpcProviderManager :=
  { m with
    providers := m.providers.modify i (fun p => { p with health := f p.health })
    enough := by rw [List.length_modify]; exact m.enough
    nonempty := by
      rw [← List.length_pos_iff, List.length_modify]
      exact List.length_pos_iff.mpr m.nonempty }

/-- `record_success`. -/
def recordSuccess (m : RpcProviderManager) (i : ℕ) : RpcProviderManager :=
  m.setHealth i RpcProviderHealth.recordSuccess

/-- `record_failure`. -/
def recordFailure (m : RpcProviderManager) (i : ℕ) (now : Instant) : RpcProviderManager :=
  m.setHealth i (RpcProviderHealth.recordFailure now)

/-- The positions of the providers that are not cooling down. -/
def available (m : RpcProviderManager) (now : Instant) : List ℕ :=
  (List.range m.providers.length).filter (fun i =>
    ((m.providers[i]?).map (fun p => p.health.isAvailable now)).getD false)

/-- The positions a request chooses from: all of them when none is available. -/
def pool (m : RpcProviderManager) (now : Instant) : List ℕ :=
  if (m.available now).isEmpty then List.range m.providers.length else m.available now

/-- **`provider_candidates`**: the pool, from the position of the counter on. -/
def providerCandidates (m : RpcProviderManager) (now : Instant) : List ℕ :=
  (m.pool now).rotate (m.roundRobinCounter % (m.pool now).length)

/-- The counter after `provider_candidates`; it has 64 bits and wraps. -/
def advanced (m : RpcProviderManager) : RpcProviderManager :=
  { m with roundRobinCounter := (m.roundRobinCounter + 1) % 2 ^ 64 }

end RpcProviderManager

/-! ## Blocks -/

/-- `select_conservative_head`: the first of the lowest blocks. -/
def selectConservativeHead (blocks : List ProviderBlock) : Option ProviderBlock :=
  blocks.argmin (fun b => b.block.number)

/-- `ensure_consistent_block_hashes`, with the first block of each number so far. -/
def ensureConsistentWith (context : String) (hashes : List ProviderBlock) :
    List ProviderBlock → Except RpcChainError Unit
  | [] => .ok ()
  | b :: rest =>
    match hashes.find? (fun e => decide (e.block.number = b.block.number)) with
    | some existing =>
      if existing.block.hash = b.block.hash then ensureConsistentWith context hashes rest
      else .error (.providerHashMismatch context existing.providerId existing.block.hash
        b.providerId b.block.hash)
    | none => ensureConsistentWith context (hashes ++ [b]) rest

/-- **`ensure_consistent_block_hashes`.** -/
def ensureConsistentBlockHashes (context : String) (blocks : List ProviderBlock) :
    Except RpcChainError Unit :=
  ensureConsistentWith context [] blocks

/-- What `request_blocks` has gathered. -/
structure Gathered where
  blocks : List ProviderBlock
  errors : List String
  notFoundCount : ℕ

namespace Gathered

/-- One more block. -/
def found (g : Gathered) (b : ProviderBlock) : Gathered := { g with blocks := g.blocks ++ [b] }

/-- One more provider that knows no such block. -/
def missing (g : Gathered) (providerId : String) : Gathered :=
  { g with
    notFoundCount := g.notFoundCount + 1
    errors := g.errors ++ [providerId ++ ": block not found"] }

/-- One more provider that failed. -/
def failed (g : Gathered) (providerId : String) (error : RpcChainError) : Gathered :=
  { g with errors := g.errors ++ [providerId ++ ": " ++ error.display] }

/-- The blocks, if their hashes agree. -/
def consistent (g : Gathered) (context : String) : Except RpcChainError (List ProviderBlock) := do
  ensureConsistentBlockHashes context g.blocks
  pure g.blocks

/-- **The end of `request_blocks`**, once every candidate was asked: any block at
all is enough. -/
def finish (g : Gathered) (context : String) (notFound : RpcChainError) (providerCount : ℕ) :
    Except RpcChainError (List ProviderBlock) :=
  if g.blocks.isEmpty then
    if g.notFoundCount = providerCount then .error notFound
    else if g.errors.isEmpty then
      .error (.rpcUnavailable ("no RPC provider returned " ++ context))
    else .error (.rpcUnavailable ("no RPC provider returned " ++ context ++ ": "
      ++ "; ".intercalate g.errors))
  else g.consistent context

end Gathered

namespace RpcProviderManager

variable (libs : RpcLibraries) (answers : ℕ → Answer)

section RequestBlocks

variable (context : String) (notFound : RpcChainError) (providerCount : ℕ)

/-- The loop of `request_blocks` over the candidates that are left. -/
def requestBlocksFrom (m : RpcProviderManager) (g : Gathered) :
    List ℕ → Except RpcChainError (List ProviderBlock) × RpcProviderManager
  | [] => (g.finish context notFound providerCount, m)
  | i :: rest =>
    match (answers i).response with
    | .ok .null => requestBlocksFrom m (g.missing (m.providerId i)) rest
    | .ok value =>
      match parseBlock libs value (m.providerId i) with
      | .ok block =>
        if m.minProviderCount ≤ (g.found block).blocks.length then
          ((g.found block).consistent context, m.recordSuccess i)
        else requestBlocksFrom (m.recordSuccess i) (g.found block) rest
      | .error error =>
        requestBlocksFrom (m.recordFailure i (answers i).receivedAt)
          (g.failed (m.providerId i) error) rest
    | .error (.blockNotFound _) => requestBlocksFrom m (g.missing (m.providerId i)) rest
    | .error error =>
      requestBlocksFrom
        (if isProviderHealthFailure error then m.recordFailure i (answers i).receivedAt else m)
        (g.failed (m.providerId i) error) rest

end RequestBlocks

variable (m : RpcProviderManager) (now : Instant)

/-- **`request_blocks`.** -/
def requestBlocks (context : String) (notFound : RpcChainError) :
    Except RpcChainError (List ProviderBlock) × RpcProviderManager :=
  requestBlocksFrom libs answers context notFound (m.providerCandidates now).length
    m.advanced ⟨[], [], 0⟩ (m.providerCandidates now)

/-- The conservative choice among the blocks of a request, which are never none. -/
def conservative (blocks : Except RpcChainError (List ProviderBlock)) :
    Except RpcChainError BlockHeader := do
  let b ← orError (selectConservativeHead (← blocks)) (.rpcUnavailable "block list must not be empty")
  pure b.block

/-- **`block_by_number`.** -/
def blockByNumber (number : ℕ) : Except RpcChainError BlockHeader × RpcProviderManager :=
  let (blocks, m') := requestBlocks libs answers m now ("block " ++ toString number)
    (.blockNotFound number)
  (conservative blocks, m')

/-- **`head_by_tag`.** -/
def headByTag (tag : String) : Except RpcChainError ChainBlockRef × RpcProviderManager :=
  let (blocks, m') := requestBlocks libs answers m now ("block tag " ++ tag)
    (.blockNotFound u64Max)
  ((conservative blocks).map BlockHeader.blockRef, m')

/-! ## The first answer -/

/-- The loop of `request_first_success`. -/
def requestFirstSuccessFrom (method : String) (m : RpcProviderManager) (errors : List String) :
    List ℕ → Except RpcChainError (String × JsonValue) × RpcProviderManager
  | [] => (.error (.rpcUnavailable ("all RPC providers failed " ++ method ++ ": "
      ++ "; ".intercalate errors)), m)
  | i :: rest =>
    match (answers i).response with
    | .ok value => (.ok (m.providerId i, value), m.recordSuccess i)
    | .error error =>
      requestFirstSuccessFrom method
        (if isProviderHealthFailure error then m.recordFailure i (answers i).receivedAt else m)
        (errors ++ [m.providerId i ++ ": " ++ error.display]) rest

/-- **`request_first_success`.** -/
def requestFirstSuccess (method : String) :
    Except RpcChainError (String × JsonValue) × RpcProviderManager :=
  requestFirstSuccessFrom answers method m.advanced [] (m.providerCandidates now)

end RpcProviderManager

/-! ## Which providers are asked -/

namespace RpcProviderManager

variable {m : RpcProviderManager} {now : Instant}

@[simp] theorem providerId_setHealth (m : RpcProviderManager) (i : ℕ)
    (f : RpcProviderHealth → RpcProviderHealth) : (m.setHealth i f).providerId = m.providerId := by
  funext j
  unfold providerId setHealth
  rw [List.getElem?_modify]
  by_cases hij : i = j
  · simp [hij]
    cases m.providers[j]? <;> rfl
  · simp [hij]

@[simp] theorem minProviderCount_setHealth (m : RpcProviderManager) (i : ℕ)
    (f : RpcProviderHealth → RpcProviderHealth) :
    (m.setHealth i f).minProviderCount = m.minProviderCount := rfl

theorem nodup_pool (m : RpcProviderManager) (now : Instant) : (m.pool now).Nodup := by
  unfold pool available
  split
  · exact List.nodup_range
  · exact List.nodup_range.filter _

theorem lt_of_mem_pool {i : ℕ} (h : i ∈ m.pool now) : i < m.providers.length := by
  unfold pool at h
  split at h
  · exact List.mem_range.mp h
  · exact List.mem_range.mp (List.mem_of_mem_filter h)

/-- **No provider is asked twice.** -/
theorem nodup_providerCandidates (m : RpcProviderManager) (now : Instant) :
    (m.providerCandidates now).Nodup :=
  List.nodup_rotate.mpr (m.nodup_pool now)

theorem lt_of_mem_providerCandidates {i : ℕ} (h : i ∈ m.providerCandidates now) :
    i < m.providers.length :=
  lt_of_mem_pool (List.mem_rotate.mp h)

end RpcProviderManager

/-! ## What a request for blocks returns -/

/-- The block a provider's answer is read as. -/
def answeredBlock (libs : RpcLibraries) (answers : ℕ → Answer) (providerId : ℕ → String)
    (i : ℕ) : Option ProviderBlock :=
  match (answers i).response with
  | .ok .null => none
  | .ok value => (parseBlock libs value (providerId i)).toOption
  | .error _ => none

/-- No two blocks of one number have different hashes. -/
def Consistent (blocks : List ProviderBlock) : Prop :=
  ∀ b ∈ blocks, ∀ c ∈ blocks, b.block.number = c.block.number → b.block.hash = c.block.hash

theorem consistent_cons {b : ProviderBlock} {rest : List ProviderBlock} :
    Consistent (b :: rest)
      ↔ (∀ c ∈ rest, b.block.number = c.block.number → b.block.hash = c.block.hash)
        ∧ Consistent rest := by
  constructor
  · intro h
    exact ⟨fun c hc => h b List.mem_cons_self c (List.mem_cons_of_mem b hc),
      fun x hx y hy => h x (List.mem_cons_of_mem b hx) y (List.mem_cons_of_mem b hy)⟩
  · rintro ⟨hb, hrest⟩ x hx y hy hn
    rcases List.mem_cons.mp hx with hx | hx
    · rcases List.mem_cons.mp hy with hy | hy
      · rw [hx, hy]
      · rw [hx] at hn ⊢
        exact hb y hy hn
    · rcases List.mem_cons.mp hy with hy | hy
      · rw [hy] at hn ⊢
        exact (hb x hx hn.symm).symm
      · exact hrest x hx y hy hn

/-- The check succeeds when the blocks agree with each other and with those that
were there, of which none has the number of another. -/
theorem ensureConsistentWith_eq_ok {context : String} {hashes blocks : List ProviderBlock}
    (hdistinct : (hashes.map (fun e => e.block.number)).Nodup) :
    ensureConsistentWith context hashes blocks = .ok ()
      ↔ (∀ e ∈ hashes, ∀ b ∈ blocks, e.block.number = b.block.number → e.block.hash = b.block.hash)
        ∧ Consistent blocks := by
  induction blocks generalizing hashes with
  | nil => simp [ensureConsistentWith, Consistent]
  | cons b rest ih =>
    unfold ensureConsistentWith
    rw [consistent_cons]
    split
    · rename_i existing hfind
      have hmem := List.mem_of_find?_eq_some hfind
      have hnumber : existing.block.number = b.block.number := by
        simpa using List.find?_some hfind
      by_cases hhash : existing.block.hash = b.block.hash
      · rw [if_pos hhash, ih hdistinct]
        constructor
        · rintro ⟨hold, hrest⟩
          refine ⟨fun e he c hc hn => ?_, fun c hc hn => ?_, hrest⟩
          · rcases List.mem_cons.mp hc with rfl | hc
            · -- the map holds one block of each number
              have heq : e = existing := List.inj_on_of_nodup_map hdistinct he hmem
                (hn.trans hnumber.symm)
              rw [heq]
              exact hhash
            · exact hold e he c hc hn
          · rw [← hhash]
            exact hold existing hmem c hc (hnumber.trans hn)
        · rintro ⟨hold, -, hrest⟩
          exact ⟨fun e he c hc => hold e he c (List.mem_cons_of_mem b hc), hrest⟩
      · rw [if_neg hhash]
        constructor
        · exact fun h => by cases h
        · rintro ⟨hold, -⟩
          exact absurd (hold existing hmem b List.mem_cons_self hnumber) hhash
    · rename_i hfind
      have hnew : ∀ e ∈ hashes, e.block.number ≠ b.block.number := by
        intro e he
        simpa using List.find?_eq_none.mp hfind e he
      have hdistinct' : ((hashes ++ [b]).map (fun e => e.block.number)).Nodup := by
        rw [List.map_append]
        refine List.Nodup.append hdistinct (List.nodup_singleton _) ?_
        intro n hn hb
        obtain ⟨e, he, rfl⟩ := List.mem_map.mp hn
        exact hnew e he (by simpa using hb)
      rw [ih hdistinct']
      constructor
      · rintro ⟨hold, hrest⟩
        refine ⟨fun e he c hc hn => ?_, fun c hc => ?_, hrest⟩
        · rcases List.mem_cons.mp hc with rfl | hc
          · exact absurd hn (hnew e he)
          · exact hold e (List.mem_append_left _ he) c hc hn
        · exact hold b (List.mem_append_right _ (List.mem_singleton_self b)) c hc
      · rintro ⟨hold, hb, hrest⟩
        refine ⟨fun e he c hc hn => ?_, hrest⟩
        rcases List.mem_append.mp he with he | he
        · exact hold e he c (List.mem_cons_of_mem b hc) hn
        · rw [List.mem_singleton.mp he] at hn ⊢
          exact hb c hc hn

/-- **The check of the hashes** is that the blocks are consistent. -/
theorem ensureConsistentBlockHashes_eq_ok {context : String} {blocks : List ProviderBlock} :
    ensureConsistentBlockHashes context blocks = .ok () ↔ Consistent blocks := by
  have hnil : (([] : List ProviderBlock).map (fun e => e.block.number)).Nodup := List.nodup_nil
  unfold ensureConsistentBlockHashes
  rw [ensureConsistentWith_eq_ok hnil]
  exact ⟨And.right, fun h => ⟨fun e he => absurd he List.not_mem_nil, h⟩⟩

theorem Gathered.consistent_eq_ok {g : Gathered} {context : String} {blocks : List ProviderBlock} :
    g.consistent context = .ok blocks ↔ blocks = g.blocks ∧ Consistent blocks := by
  unfold Gathered.consistent
  constructor
  · intro h
    obtain ⟨⟨⟩, hcheck, h⟩ := Except.bind_eq_ok.mp h
    obtain rfl := Except.pure_eq_ok.mp h
    exact ⟨rfl, ensureConsistentBlockHashes_eq_ok.mp hcheck⟩
  · rintro ⟨rfl, hcheck⟩
    exact Except.bind_eq_ok.mpr ⟨(), ensureConsistentBlockHashes_eq_ok.mpr hcheck, rfl⟩

theorem Gathered.finish_eq_ok {g : Gathered} {context : String} {notFound : RpcChainError}
    {providerCount : ℕ} {blocks : List ProviderBlock} :
    g.finish context notFound providerCount = .ok blocks
      ↔ blocks = g.blocks ∧ blocks ≠ [] ∧ Consistent blocks := by
  unfold Gathered.finish
  by_cases hempty : g.blocks = []
  · rw [if_pos (by rw [hempty]; rfl)]
    constructor
    · intro h
      split at h
      · cases h
      · split at h <;> cases h
    · rintro ⟨rfl, hne, -⟩
      exact absurd hempty hne
  · rw [if_neg (by simpa using hempty), Gathered.consistent_eq_ok]
    constructor
    · rintro ⟨rfl, hcons⟩
      exact ⟨rfl, hempty, hcons⟩
    · rintro ⟨rfl, -, hcons⟩
      exact ⟨rfl, hcons⟩

namespace RpcProviderManager

/-- **The loop collects the first blocks the candidates answer with**, as many as
are asked for and at least one, or all there are; it succeeds when there is
one and they are consistent. -/
theorem requestBlocksFrom_eq_ok {libs : RpcLibraries} {answers : ℕ → Answer}
    {context : String} {notFound : RpcChainError} {providerCount : ℕ} {m : RpcProviderManager}
    {g : Gathered} {candidates : List ℕ} {blocks : List ProviderBlock}
    (hmore : g.blocks.length < max 1 m.minProviderCount) :
    (requestBlocksFrom libs answers context notFound providerCount m g candidates).1
        = .ok blocks
      ↔ blocks = g.blocks ++ (candidates.filterMap (answeredBlock libs answers
            m.providerId)).take (max 1 m.minProviderCount - g.blocks.length)
        ∧ blocks ≠ [] ∧ Consistent blocks := by
  induction candidates generalizing m g with
  | nil =>
    unfold requestBlocksFrom
    rw [Gathered.finish_eq_ok, List.filterMap_nil, List.take_nil, List.append_nil]
  | cons i rest ih =>
    -- a candidate that answers with no block changes nothing that counts
    have hskip : ∀ (m' : RpcProviderManager) (g' : Gathered), m'.providerId = m.providerId →
        m'.minProviderCount = m.minProviderCount → g'.blocks = g.blocks →
        answeredBlock libs answers m.providerId i = none →
        ((requestBlocksFrom libs answers context notFound providerCount m' g' rest).1
            = .ok blocks
          ↔ blocks = g.blocks ++ ((i :: rest).filterMap (answeredBlock libs answers
              m.providerId)).take (max 1 m.minProviderCount - g.blocks.length)
            ∧ blocks ≠ [] ∧ Consistent blocks) := by
      intro m' g' hid hmin hblocks hnone
      rw [ih (by rw [hmin, hblocks]; exact hmore), hid, hmin, hblocks,
        List.filterMap_cons_none hnone]
    unfold requestBlocksFrom
    split
    · rename_i hresp
      exact hskip _ _ rfl rfl rfl (by simp [answeredBlock, hresp])
    · rename_i value hnull hresp
      have hanswered : answeredBlock libs answers m.providerId i
          = (parseBlock libs value (m.providerId i)).toOption := by
        unfold answeredBlock
        rw [hresp]
        cases value with
        | null => exact absurd rfl hnull
        | _ => rfl
      split
      · rename_i block hparse
        rw [hparse] at hanswered
        have hsome : answeredBlock libs answers m.providerId i = some block := hanswered
        rw [List.filterMap_cons_some hsome]
        have hlength : (g.found block).blocks.length = g.blocks.length + 1 := by
          simp [Gathered.found]
        by_cases henough : m.minProviderCount ≤ (g.found block).blocks.length
        · have hone : max 1 m.minProviderCount - g.blocks.length = 1 := by omega
          rw [if_pos henough, Gathered.consistent_eq_ok, hone, List.take_succ_cons, List.take_zero]
          constructor
          · rintro ⟨rfl, hcons⟩
            exact ⟨rfl, by simp [Gathered.found], hcons⟩
          · rintro ⟨rfl, -, hcons⟩
            exact ⟨rfl, hcons⟩
        · have hleft : max 1 m.minProviderCount - g.blocks.length
              = (max 1 m.minProviderCount - (g.found block).blocks.length) + 1 := by omega
          have hmore' : (g.found block).blocks.length
              < max 1 (m.recordSuccess i).minProviderCount := by
            show (g.found block).blocks.length < max 1 m.minProviderCount
            omega
          rw [if_neg henough, ih hmore', hleft, List.take_succ_cons]
          simp [recordSuccess, Gathered.found]
      · rename_i error hparse
        rw [hparse] at hanswered
        exact hskip _ _ (providerId_setHealth m i _) rfl rfl hanswered
    · rename_i number hresp
      exact hskip _ _ rfl rfl rfl (by simp [answeredBlock, hresp])
    · rename_i error hother hresp
      have hnone : answeredBlock libs answers m.providerId i = none := by
        simp [answeredBlock, hresp]
      by_cases hhealth : isProviderHealthFailure error = true
      · rw [if_pos hhealth]
        exact hskip _ _ (providerId_setHealth m i _) rfl rfl hnone
      · rw [if_neg hhealth]
        exact hskip _ _ rfl rfl rfl hnone

end RpcProviderManager
