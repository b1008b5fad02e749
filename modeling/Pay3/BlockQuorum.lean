import Pay3.RpcProviders

/-!
# How many providers stand behind a block

A request for a block stops at the number of answers the pool is configured
for. It does not insist on them: when the candidates run out, the answers there
are will do, a single one if need be, which is how the pool goes on serving
while some of its providers cool down. So the number of providers behind a
block is the configured one or the number of candidates that answered with a
block, whichever is less, and never none.

The blocks collected come from different providers and agree on the hash of
every number. The one returned is the lowest of them, under the number it was
answered with.
-/

namespace RpcProviderManager

variable (libs : RpcLibraries) (answers : ℕ → Answer) (m : RpcProviderManager)
  (now : Instant)

/-- The candidates that answer with a block, in the order they are asked. -/
def answering : List ℕ :=
  (m.providerCandidates now).filter
    (fun i => (answeredBlock libs answers m.providerId i).isSome)

/-- **The candidates whose blocks are collected.** -/
def collectedFrom : List ℕ :=
  (answering libs answers m now).take (max 1 m.minProviderCount)

/-- **The blocks collected.** -/
def collected : List ProviderBlock :=
  (collectedFrom libs answers m now).filterMap
    (answeredBlock libs answers m.providerId)

/-- The providers that answer with a block. -/
def answeringProviders : List ℕ :=
  (List.range m.providers.length).filter
    (fun i => (answeredBlock libs answers m.providerId i).isSome)

/-- **The providers that answer with a block of a number and hash.** -/
def backers (number : ℕ) (hash : BlockHash) : List ℕ :=
  (List.range m.providers.length).filter
    (fun i => (answeredBlock libs answers m.providerId i).any
      (fun b => decide (b.block.number = number) && decide (b.block.hash = hash)))

/-- **The quorum asked for**: a block returned has the number asked for, and as
many providers as configured stand behind it; as many answer with a block when
a head is returned, and the blocks collected agree. -/
def BlockQuorum (number : ℕ) (tag : String) : Prop :=
  (∀ b, (blockByNumber libs answers m now number).1 = .ok b →
    b.number = number
      ∧ m.minProviderCount ≤ (backers libs answers m number b.hash).length)
  ∧ ∀ h, (headByTag libs answers m now tag).1 = .ok h →
    m.minProviderCount ≤ (answeringProviders libs answers m).length
      ∧ Consistent (collected libs answers m now)

end RpcProviderManager

/-- The first results of a partial function are its results on the first values
it has results for. -/
theorem take_filterMap {α β : Type*} (f : α → Option β) (l : List α) (k : ℕ) :
    (l.filterMap f).take k = ((l.filter (fun a => (f a).isSome)).take k).filterMap f := by
  induction l generalizing k with
  | nil => simp
  | cons a l ih =>
    cases hfa : f a with
    | none => rw [List.filterMap_cons_none hfa, List.filter_cons_of_neg (by simp [hfa]), ih]
    | some b =>
      rw [List.filterMap_cons_some hfa, List.filter_cons_of_pos (by simp [hfa])]
      cases k with
      | zero => rfl
      | succ k =>
        rw [List.take_succ_cons, List.take_succ_cons, List.filterMap_cons_some hfa, ih]

namespace RpcProviderManager

variable {libs : RpcLibraries} {answers : ℕ → Answer} {m : RpcProviderManager}
  {now : Instant}

theorem nodup_collectedFrom : (collectedFrom libs answers m now).Nodup :=
  ((m.nodup_providerCandidates now).filter _).sublist (List.take_sublist _ _)

theorem of_mem_collectedFrom {i : ℕ} (h : i ∈ collectedFrom libs answers m now) :
    i < m.providers.length ∧ (answeredBlock libs answers m.providerId i).isSome = true := by
  obtain ⟨hmem, hsome⟩ := List.mem_filter.mp (List.mem_of_mem_take h)
  exact ⟨lt_of_mem_providerCandidates hmem, hsome⟩

theorem length_collectedFrom : (collectedFrom libs answers m now).length
    = min (max 1 m.minProviderCount) (answering libs answers m now).length := by
  unfold collectedFrom
  rw [List.length_take]

/-- **What a request for blocks returns**: the blocks collected, if there is one
and they agree. -/
theorem requestBlocks_eq_ok {context : String} {notFound : RpcChainError}
    {blocks : List ProviderBlock} :
    (requestBlocks libs answers m now context notFound).1 = .ok blocks
      ↔ blocks = collected libs answers m now ∧ blocks ≠ [] ∧ Consistent blocks := by
  unfold requestBlocks
  rw [requestBlocksFrom_eq_ok (by show 0 < max 1 m.minProviderCount; omega)]
  show blocks = [] ++ ((m.providerCandidates now).filterMap
    (answeredBlock libs answers m.providerId)).take (max 1 m.minProviderCount - 0) ∧ _ ↔ _
  rw [List.nil_append, Nat.sub_zero, take_filterMap]
  rfl

/-- **The conservative choice** is one of the blocks, and none of them is lower. -/
theorem conservative_eq_ok {blocks : List ProviderBlock} {b : BlockHeader}
    (h : conservative (.ok blocks) = .ok b) :
    (∃ c ∈ blocks, c.block = b) ∧ ∀ c ∈ blocks, b.number ≤ c.block.number := by
  unfold conservative at h
  obtain ⟨_, hblocks, h⟩ := Except.bind_eq_ok.mp h
  obtain rfl := Except.ok.inj hblocks
  obtain ⟨c, hc, h⟩ := Except.bind_eq_ok.mp h
  obtain rfl := Except.pure_eq_ok.mp h
  have hmin : c ∈ blocks.argmin (fun b => b.block.number) := orError_eq_ok.mp hc
  have hle : ∀ d ∈ blocks, c.block.number ≤ d.block.number := fun d hd =>
    List.le_of_mem_argmin (f := fun b : ProviderBlock => b.block.number) hd hmin
  exact ⟨⟨c, List.argmin_mem hmin, rfl⟩, hle⟩

/-- A block that is returned was chosen among those collected, which agree. -/
theorem of_conservative_requestBlocks {context : String} {notFound : RpcChainError}
    {b : BlockHeader}
    (h : conservative (requestBlocks libs answers m now context notFound).1 = .ok b) :
    collected libs answers m now ≠ [] ∧ Consistent (collected libs answers m now)
      ∧ (∃ c ∈ collected libs answers m now, c.block = b)
      ∧ ∀ c ∈ collected libs answers m now, b.number ≤ c.block.number := by
  cases hblocks : (requestBlocks libs answers m now context notFound).1 with
  | error e =>
    rw [hblocks] at h
    cases h
  | ok blocks =>
    rw [hblocks] at h
    obtain ⟨rfl, hne, hcons⟩ := requestBlocks_eq_ok.mp hblocks
    exact ⟨hne, hcons, conservative_eq_ok h⟩

/-- Something is collected when a block is. -/
theorem length_collectedFrom_pos (h : collected libs answers m now ≠ []) :
    max 1 (min m.minProviderCount (answering libs answers m now).length)
      ≤ (collectedFrom libs answers m now).length := by
  have hpos : 0 < (collectedFrom libs answers m now).length := by
    rw [List.length_pos_iff]
    intro hnil
    refine h ?_
    unfold collected
    rw [hnil]
    rfl
  rw [length_collectedFrom] at hpos ⊢
  omega

/-- **Every provider collected from stands behind the block returned**, when all
of them answered with one number. -/
theorem length_collectedFrom_le_backers {number : ℕ} {b : BlockHeader}
    (hcons : Consistent (collected libs answers m now))
    (hb : ∃ c ∈ collected libs answers m now, c.block = b)
    (hnumber : ∀ c ∈ collected libs answers m now, c.block.number = number) :
    b.number = number ∧ (collectedFrom libs answers m now).length
      ≤ (backers libs answers m number b.hash).length := by
  obtain ⟨c, hc, rfl⟩ := hb
  refine ⟨hnumber c hc, ?_⟩
  refine (List.subperm_of_subset nodup_collectedFrom (fun i hi => ?_)).length_le
  obtain ⟨hlt, hsome⟩ := of_mem_collectedFrom hi
  obtain ⟨d, hd⟩ := Option.isSome_iff_exists.mp hsome
  have hdmem : d ∈ collected libs answers m now := List.mem_filterMap.mpr ⟨i, hi, hd⟩
  have hhash : d.block.hash = c.block.hash :=
    hcons d hdmem c hc ((hnumber d hdmem).trans (hnumber c hc).symm)
  refine List.mem_filter.mpr ⟨List.mem_range.mpr hlt, ?_⟩
  rw [hd]
  simp [hnumber d hdmem, hhash]

/-- **As many providers as configured, or as many as answered, stand behind a
block**: behind a block returned for a number all providers collected from
answered with, and behind a head. The blocks collected for a head agree. -/
theorem blockQuorum_of_answering (libs : RpcLibraries) (answers : ℕ → Answer)
    (m : RpcProviderManager) (now : Instant) (number : ℕ) (tag : String) :
    (∀ b, (blockByNumber libs answers m now number).1 = .ok b →
      (∀ c ∈ collected libs answers m now, c.block.number = number) →
      b.number = number
        ∧ max 1 (min m.minProviderCount (answering libs answers m now).length)
          ≤ (backers libs answers m number b.hash).length)
    ∧ ∀ h, (headByTag libs answers m now tag).1 = .ok h →
      max 1 (min m.minProviderCount (answering libs answers m now).length)
          ≤ (answeringProviders libs answers m).length
        ∧ Consistent (collected libs answers m now) := by
  constructor
  · intro b hb hnumber
    obtain ⟨hne, hcons, hmem, -⟩ := of_conservative_requestBlocks hb
    obtain ⟨hnum, hle⟩ := length_collectedFrom_le_backers hcons hmem hnumber
    exact ⟨hnum, (length_collectedFrom_pos hne).trans hle⟩
  · intro h hh
    obtain ⟨b, hb, -⟩ := Except.map_eq_ok.mp hh
    obtain ⟨hne, hcons, -, -⟩ := of_conservative_requestBlocks hb
    refine ⟨(length_collectedFrom_pos hne).trans ?_, hcons⟩
    refine (List.subperm_of_subset nodup_collectedFrom (fun i hi => ?_)).length_le
    obtain ⟨hlt, hsome⟩ := of_mem_collectedFrom hi
    exact List.mem_filter.mpr ⟨List.mem_range.mpr hlt, hsome⟩

end RpcProviderManager

namespace SmallPool

/-- Block 10 as a provider writes it. -/
def block : JsonValue :=
  .object [("number", .string "0xa"),
    ("hash", .string ("0x" ++ String.ofList (List.replicate 64 'a'))),
    ("parentHash", .string ("0x" ++ String.ofList (List.replicate 64 '9'))),
    ("timestamp", .string "0x5")]

/-- A pool of healthy providers that asks for two answers. -/
def pool (ids : List String) (h : 2 ≤ ids.length) : RpcProviderManager where
  expectedChainId := 1
  minProviderCount := 2
  providers := ids.map (fun id => ⟨id, ⟨0, none⟩⟩)
  roundRobinCounter := 0
  enough := by rw [List.length_map]; exact h
  nonempty := by
    rw [← List.length_pos_iff, List.length_map]
    exact Nat.lt_of_lt_of_le Nat.zero_lt_two h

/-- The provider at one position times out, all others know the block. -/
def answersBut (down i : ℕ) : Answer :=
  if i = down then ⟨.error (.rpcUnavailable "timeout"), 7⟩ else ⟨.ok block, 7⟩

def pair : RpcProviderManager := pool ["rpc-1", "rpc-2"] (by decide)

def three : RpcProviderManager := pool ["rpc-1", "rpc-2", "rpc-3"] (by decide)

end SmallPool

namespace RpcProviderManager

open SmallPool

/-- With a third provider there are two behind the block though one is down. -/
theorem blockQuorum_of_three :
    ∃ b, (blockByNumber plainLibraries (answersBut 0) three 0 10).1 = .ok b ∧ b.number = 10
      ∧ 2 ≤ (backers plainLibraries (answersBut 0) three 10 b.hash).length := by
  have hok : (blockByNumber plainLibraries (answersBut 0) three 0 10).1.toOption.isSome = true := by
    decide +kernel
  obtain ⟨b, hb⟩ := Option.isSome_iff_exists.mp hok
  have hb := Except.toOption_eq_some.mp hb
  have hnumber : ∀ c ∈ collected plainLibraries (answersBut 0) three 0, c.block.number = 10 := by
    decide +kernel
  have htwo : (answering plainLibraries (answersBut 0) three 0).length = 2 := by decide +kernel
  obtain ⟨hnum, hle⟩ := (blockQuorum_of_answering plainLibraries (answersBut 0) three 0 10 "latest").1
    b hb hnumber
  rw [htwo] at hle
  exact ⟨b, hb, hnum, hle⟩

/-- **With two providers, one of them down, a single provider stands behind the
block.** -/
theorem blockQuorum_fails :
    ¬ ∀ (libs : RpcLibraries) (answers : ℕ → Answer) (m : RpcProviderManager)
      (now : Instant) (number : ℕ) (tag : String),
      BlockQuorum libs answers m now number tag := by
  intro hall
  have hok : (blockByNumber plainLibraries (answersBut 1) pair 0 10).1.toOption.isSome = true := by
    decide +kernel
  obtain ⟨b, hb⟩ := Option.isSome_iff_exists.mp hok
  obtain ⟨-, hle⟩ := (hall plainLibraries (answersBut 1) pair 0 10 "latest").1 b
    (Except.toOption_eq_some.mp hb)
  have hone : (backers plainLibraries (answersBut 1) pair 10 b.hash).length ≤ 1 := by
    have hsub : backers plainLibraries (answersBut 1) pair 10 b.hash ⊆ [0] := by
      intro i hi
      obtain ⟨hlt, hany⟩ := List.mem_filter.mp hi
      have hi2 : i < 2 := List.mem_range.mp hlt
      rcases Nat.lt_or_ge i 1 with h0 | h1
      · simp [Nat.lt_one_iff.mp h0]
      · -- the second provider answers with an error
        obtain rfl : i = 1 := by omega
        cases hany
    have hnodup : (backers plainLibraries (answersBut 1) pair 10 b.hash).Nodup :=
      List.nodup_range.filter _
    exact (List.subperm_of_subset hnodup hsub).length_le
  exact absurd (hle.trans hone) (by decide)

end RpcProviderManager
