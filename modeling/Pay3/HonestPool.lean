import Pay3.LaggingProviders
import Pay3.ReceiptLookup
import Pay3.Rescans
import Pay3.WireFormat

/-!
# A pool of honest providers is a source

Scans and verifications are stated over a source that answers from the chain. What the program
has is a pool of providers, each of which answers with text. Here the providers are honest, and
no more than that: an answer may be an error, a block a provider has not seen is `null`, logs
come in any order and only of the blocks the provider has seen, and a text may be in any case
and with any leading zeros that the format allows.

Such a pool answers as the source of its chain does, log for log and in the same order, or it
fails, and it fails for three reasons only (`transferLogs_iff_source`). So what was proved of a
scan over the source holds of a scan over the pool (`matchRange_iff_source`), to the rows in the
table (`storedOnce_of_pool`).
-/

namespace HonestPool

section World

variable (libs : RpcLibraries) (calls : RangeCalls) (range : TransferLogRange)
  (chain : CanonicalChain) (heights : ℕ → ℕ)

/-- The header is that of the block. -/
def HeaderOf (b : BlockHeader) (c : ChainBlock) : Prop :=
  b.number = c.number ∧ b.hash = c.hash ∧ b.timestamp = c.timestamp

/-- The answer writes the block; the chain does not say which parent it names. -/
def WritesChainBlock (value : JsonValue) (c : ChainBlock) : Prop :=
  ∃ b, HeaderOf b c ∧ WritesBlock value b

/-- The answer writes the logs, in their order, none of them as taken back. -/
def WritesLogs (value : JsonValue) (logs : List ParsedTransferLog) : Prop :=
  ∃ rawLogs, value = .array rawLogs
    ∧ (∀ rawLog ∈ rawLogs, RpcRangeSource.isRemoved rawLog = false)
    ∧ List.Forall₂ WritesLog rawLogs logs

/-- **Honest providers**: the provider `i` has seen the blocks up to `heights i`. -/
structure Honest : Prop where
  logs : ∀ i < calls.logs.manager.providers.length, ∀ value,
    (calls.logs.answers i).response = .ok value →
    ∃ told, told.Perm (chain.getLogs { range with toBlock := min range.toBlock (heights i) })
      ∧ WritesLogs value told
  headers : ∀ n, ∀ i < (calls.header n).manager.providers.length, ∀ value,
    ((calls.header n).answers i).response = .ok value →
    value = .null ∨ ∃ c, chain.blockByNumber n = some c ∧ WritesChainBlock value c
  head : ∀ i < calls.head.manager.providers.length, ∀ value,
    (calls.head.answers i).response = .ok value →
    value = .null ∨ ∃ c ∈ chain.blocks, WritesChainBlock value c

/-- **What the pool can fail for**: it is for another chain, no provider answers with logs, or
none answers with the block of a log. -/
structure Served : Prop where
  chainId : range.chainId = calls.logs.manager.expectedChainId
  logs : calls.logs.firstAnswering.isSome = true
  headers : ∀ log ∈ chain.getLogs range,
    RpcProviderManager.answering libs (calls.header log.blockNumber).answers
      (calls.header log.blockNumber).manager (calls.header log.blockNumber).now ≠ []

/-- The provider whose logs are taken has seen the range. -/
def Synced : Prop := ∀ i ∈ calls.logs.firstAnswering, range.toBlock ≤ heights i

/-- The logs of a block have different indices. -/
def Indexed : Prop := ∀ c ∈ chain.blocks, (c.transfers.map Transfer.logIndex).Nodup

instance : Decidable (Indexed chain) := inferInstanceAs (Decidable (∀ c ∈ chain.blocks, _))

/-- The time of a block of the chain. -/
def timeAt (number : ℕ) : Timestamp :=
  ((chain.blockByNumber number).map ChainBlock.timestamp).getD 0

/-- A log with the time of its block. -/
def completed (chainId : ℕ) (log : ParsedTransferLog) : TransferLog :=
  ⟨log, chainId, timeAt chain log.blockNumber⟩

end World

variable {libs : RpcLibraries} {calls : RangeCalls} {range : TransferLogRange}
  {chain : CanonicalChain} {heights : ℕ → ℕ}

/-! ## The headers -/

section Headers

variable {call : PoolCall} {P : ChainBlock → Prop}

/-- What a provider's answer is read as, when it is `null` or writes a block. -/
theorem headerOf_of_answeredBlock {i : ℕ} {b : ProviderBlock}
    (htold : ∀ value, (call.answers i).response = .ok value →
      value = .null ∨ ∃ c, P c ∧ WritesChainBlock value c)
    (h : answeredBlock libs call.answers call.manager.providerId i = some b) :
    ∃ c, P c ∧ HeaderOf b.block c := by
  unfold answeredBlock at h
  split at h
  · cases h
  · rename_i value hnull hvalue
    obtain rfl | ⟨c, hc, b', hb', hwrites⟩ := htold value hvalue
    · exact absurd rfl hnull
    · have hread : parseBlock libs value (call.manager.providerId i) = .ok ⟨_, b'⟩ :=
        parseBlock_eq_ok_iff.mpr ⟨rfl, hwrites⟩
      have hb := Except.toOption_eq_some.mp h
      rw [hread] at hb
      rw [← Except.ok.inj hb]
      exact ⟨c, hc, hb'⟩
  · cases h

/-- A call is answered from blocks of the chain that have a property. -/
def TellsBlocks (call : PoolCall) (P : ChainBlock → Prop) : Prop :=
  ∀ i < call.manager.providers.length, ∀ value, (call.answers i).response = .ok value →
    value = .null ∨ ∃ c, P c ∧ WritesChainBlock value c

theorem headerOf_of_mem_collected (htold : TellsBlocks call P) {b : ProviderBlock}
    (h : b ∈ RpcProviderManager.collected libs call.answers call.manager call.now) :
    ∃ c, P c ∧ HeaderOf b.block c := by
  obtain ⟨i, hi, hb⟩ := List.mem_filterMap.mp h
  exact headerOf_of_answeredBlock (htold i (RpcProviderManager.of_mem_collectedFrom hi).1) hb

/-- **Honest answers agree**: a number leads to one block of the chain. -/
theorem consistent_collected (htold : TellsBlocks call P) (hchain : ∀ c, P c → c ∈ chain.blocks) :
    Consistent (RpcProviderManager.collected libs call.answers call.manager call.now) := by
  intro b hb b' hb' hnumber
  obtain ⟨c, hc, hbn, hbh, -⟩ := headerOf_of_mem_collected htold hb
  obtain ⟨c', hc', hbn', hbh', -⟩ := headerOf_of_mem_collected htold hb'
  have hsame := CanonicalChain.blockByNumber_of_mem (hchain c hc)
  rw [← hbn, hnumber, hbn', CanonicalChain.blockByNumber_of_mem (hchain c' hc')] at hsame
  rw [hbh, hbh', Option.some.inj hsame]

/-- Blocks are collected when a provider answers with one. -/
theorem collected_ne_nil
    (h : RpcProviderManager.answering libs call.answers call.manager call.now ≠ []) :
    RpcProviderManager.collected libs call.answers call.manager call.now ≠ [] := by
  obtain ⟨i, rest, hanswering⟩ := List.exists_cons_of_ne_nil h
  have hmem : i ∈ RpcProviderManager.collectedFrom libs call.answers call.manager
      call.now := by
    unfold RpcProviderManager.collectedFrom
    rw [hanswering, show max 1 call.manager.minProviderCount
      = (max 1 call.manager.minProviderCount - 1) + 1 by omega, List.take_succ_cons]
    exact List.mem_cons_self
  obtain ⟨b, hb⟩ := Option.isSome_iff_exists.mp (RpcProviderManager.of_mem_collectedFrom hmem).2
  exact List.ne_nil_of_mem (List.mem_filterMap.mpr ⟨i, hmem, hb⟩)

/-- **A call for a block of honest providers succeeds when one of them answers with a block**,
and returns a header of such a block. -/
theorem conservative_iff (libs : RpcLibraries) (context : String)
    (notFound : RpcChainError) (htold : TellsBlocks call P)
    (hchain : ∀ c, P c → c ∈ chain.blocks) :
    ((∃ b, RpcProviderManager.conservative (RpcProviderManager.requestBlocks libs
        call.answers call.manager call.now context notFound).1 = .ok b)
      ↔ RpcProviderManager.answering libs call.answers call.manager call.now ≠ [])
    ∧ ∀ b, RpcProviderManager.conservative (RpcProviderManager.requestBlocks libs
        call.answers call.manager call.now context notFound).1 = .ok b →
      ∃ c, P c ∧ HeaderOf b c := by
  refine ⟨⟨?_, fun h => ?_⟩, fun b hb => ?_⟩
  · rintro ⟨b, hb⟩ hnone
    refine (RpcProviderManager.of_conservative_requestBlocks hb).1 ?_
    unfold RpcProviderManager.collected RpcProviderManager.collectedFrom
    rw [hnone, List.take_nil]
    rfl
  · have hblocks : (RpcProviderManager.requestBlocks libs call.answers call.manager call.now
        context notFound).1 = .ok _ :=
      RpcProviderManager.requestBlocks_eq_ok.mpr
        ⟨rfl, collected_ne_nil h, consistent_collected htold hchain⟩
    rw [hblocks]
    have hsome : selectConservativeHead (RpcProviderManager.collected libs call.answers
        call.manager call.now) ≠ none :=
      fun hnone => collected_ne_nil h (List.argmin_eq_none.mp hnone)
    obtain ⟨b, hb⟩ := Option.ne_none_iff_exists'.mp hsome
    exact ⟨b.block, Except.bind_eq_ok.mpr ⟨_, rfl, Except.bind_eq_ok.mpr
      ⟨b, orError_eq_ok.mpr hb, rfl⟩⟩⟩
  · obtain ⟨-, -, ⟨c, hc, rfl⟩, -⟩ := RpcProviderManager.of_conservative_requestBlocks hb
    exact headerOf_of_mem_collected htold hc

end Headers

/-- **The header that is fetched for a number** is that of the chain's block. -/
theorem fetchHeader_iff (hhonest : Honest calls range chain heights) {n : ℕ} :
    ((∃ p, RpcRangeSource.fetchHeader libs calls n = .ok p)
      ↔ RpcProviderManager.answering libs (calls.header n).answers
        (calls.header n).manager (calls.header n).now ≠ [])
    ∧ ∀ p, RpcRangeSource.fetchHeader libs calls n = .ok p →
      p.1 = n ∧ ∃ c, chain.blockByNumber n = some c ∧ HeaderOf p.2 c := by
  obtain ⟨hiff, hheader⟩ := conservative_iff libs ("block " ++ toString n)
    (.blockNotFound n) (hhonest.headers n)
    (fun c (hc : chain.blockByNumber n = some c) => List.mem_of_getElem? hc)
  refine ⟨Iff.trans ⟨?_, ?_⟩ hiff, fun p hp => ?_⟩
  · rintro ⟨p, hp⟩
    obtain ⟨b, hb, -⟩ := Except.map_eq_ok.mp hp
    exact ⟨b, hb⟩
  · rintro ⟨b, hb⟩
    exact ⟨(n, b), Except.map_eq_ok.mpr ⟨b, hb, rfl⟩⟩
  · obtain ⟨b, hb, rfl⟩ := Except.map_eq_ok.mp hp
    exact ⟨rfl, hheader b hb⟩

/-! ## The logs -/

/-- An answer of honest logs is read as they were told. -/
theorem parsedLogs_of_writesLogs {rawLogs : List JsonValue} {told : List ParsedTransferLog}
    (hremoved : ∀ rawLog ∈ rawLogs, RpcRangeSource.isRemoved rawLog = false)
    (hwrites : List.Forall₂ WritesLog rawLogs told)
    (htoken : ∀ log ∈ told, log.tokenAddress = range.tokenAddress) :
    RpcRangeSource.parsedLogs libs range rawLogs = .ok told := by
  have hkeep : rawLogs.filter (fun rawLog => !RpcRangeSource.isRemoved rawLog) = rawLogs := by
    refine List.filter_eq_self.mpr (fun rawLog hmem => ?_)
    rw [hremoved rawLog hmem]
    rfl
  have hmap : rawLogs.map (parseTransferLog libs) = told.map Except.ok := by
    rw [← List.forall₂_eq_eq_eq, List.forall₂_map_left_iff, List.forall₂_map_right_iff]
    exact hwrites.imp fun _ _ h => parseTransferLog_eq_ok_iff.mpr h
  unfold RpcRangeSource.parsedLogs
  rw [hkeep, collectOk_eq_of_map_eq hmap]
  exact Except.pure_eq_ok.mpr (List.filter_eq_self.mpr (fun log hlog =>
    decide_eq_true (htoken log hlog)))

/-- A log of the chain is completed with the header of its block by the source. -/
theorem attachHeader_chain {log : ParsedTransferLog} (h : log ∈ chain.getLogs range) :
    attachHeader range.chainId chain.blocks log = .ok (completed chain range.chainId log) := by
  obtain ⟨b, hb, -, -, t, -, -, -, rfl⟩ := CanonicalChain.mem_getLogs.mp h
  unfold attachHeader completed timeAt
  rw [chain.find?_blocks hb, CanonicalChain.blockByNumber_of_mem hb]
  exact if_pos rfl

/-- And so it is by the pool, once its header was fetched. -/
theorem attachHeader_pool (hhonest : Honest calls range chain heights) {providerId : String}
    {told : List ParsedTransferLog} {headers : List (ℕ × BlockHeader)} {log : ParsedTransferLog}
    (hlog : log ∈ told) (hchain : log ∈ chain.getLogs range)
    (hheaders : collectOk (RpcRangeSource.fetchHeader libs calls)
      (sortedSet (told.map ParsedTransferLog.blockNumber)) = .ok headers) :
    RpcRangeSource.attachHeader range providerId headers log
      = .ok (completed chain range.chainId log) := by
  obtain ⟨b, hb, -, -, t, -, -, -, rfl⟩ := CanonicalChain.mem_getLogs.mp hchain
  -- a header was fetched under the number of the block
  obtain ⟨p, hp, hfetch⟩ := exists_of_collectOk hheaders
    (mem_sortedSet.mpr (List.mem_map_of_mem (f := ParsedTransferLog.blockNumber) hlog))
  have hnumber := ((fetchHeader_iff hhonest).2 p hfetch).1
  have hsome : (headers.find? (fun h => decide (h.1 = b.number))).isSome = true :=
    List.find?_isSome.mpr ⟨p, hp, decide_eq_true hnumber⟩
  obtain ⟨⟨n, header⟩, hfind⟩ := Option.isSome_iff_exists.mp hsome
  -- and whichever is found there is of that block
  obtain ⟨m, -, hfetched⟩ := (mem_collectOk hheaders).mp (List.mem_of_find?_eq_some hfind)
  obtain ⟨hm, c, hc, hcn, hch, hct⟩ := (fetchHeader_iff hhonest).2 _ hfetched
  have hn : n = b.number := by simpa using List.find?_some hfind
  obtain rfl : m = b.number := hm.symm.trans hn
  rw [CanonicalChain.blockByNumber_of_mem hb] at hc
  obtain rfl := Option.some.inj hc
  unfold RpcRangeSource.attachHeader completed timeAt
  rw [hfind, CanonicalChain.blockByNumber_of_mem hb]
  show (if header.hash = b.hash then _ else _) = _
  rw [if_pos hch, hcn, hch, hct]
  rfl

/-! ## The order of the logs -/

/-- Two logs of the chain at one place are the same. -/
theorem eq_of_place (hindexed : Indexed chain) {log log' : ParsedTransferLog}
    (h : log ∈ chain.getLogs range) (h' : log' ∈ chain.getLogs range)
    (hblock : log.blockNumber = log'.blockNumber) (hindex : log.logIndex = log'.logIndex) :
    log = log' := by
  obtain ⟨b, hb, -, -, t, ht, -, -, rfl⟩ := CanonicalChain.mem_getLogs.mp h
  obtain ⟨b', hb', -, -, t', ht', -, -, rfl⟩ := CanonicalChain.mem_getLogs.mp h'
  have hsame := CanonicalChain.blockByNumber_of_mem hb
  rw [show b.number = b'.number from hblock, CanonicalChain.blockByNumber_of_mem hb'] at hsame
  obtain rfl := Option.some.inj hsame
  rw [List.inj_on_of_nodup_map (hindexed b' hb) ht ht' hindex]

/-- **The order of an answer makes no difference**: logs of the chain are put in one order. -/
theorem insertionSort_completed (hindexed : Indexed chain) {told : List ParsedTransferLog}
    (hperm : told.Perm (chain.getLogs range)) {chainId : ℕ}
    {le : TransferLog → TransferLog → Prop} [DecidableRel le]
    (hle : ∀ a b, le a b ↔ a.blockNumber < b.blockNumber ∨
      (a.blockNumber = b.blockNumber ∧ a.logIndex ≤ b.logIndex)) :
    (told.map (completed chain chainId)).insertionSort le
      = ((chain.getLogs range).map (completed chain chainId)).insertionSort le := by
  have htotal : Std.Total le := ⟨fun a b => by rw [hle, hle]; omega⟩
  have htrans : IsTrans TransferLog le := ⟨fun a b c hab hbc => by
    rw [hle] at hab hbc ⊢
    omega⟩
  refine List.Perm.eq_of_pairwise (fun a b ha hb (hab : le a b) (hba : le b a) => ?_)
    (List.pairwise_insertionSort le _) (List.pairwise_insertionSort le _)
    (((List.perm_insertionSort le _).trans (hperm.map _)).trans
      (List.perm_insertionSort le _).symm)
  obtain ⟨log, hlog, rfl⟩ := List.mem_map.mp ((List.mem_insertionSort le).mp ha)
  obtain ⟨log', hlog', rfl⟩ := List.mem_map.mp ((List.mem_insertionSort le).mp hb)
  replace hab : log.blockNumber < log'.blockNumber ∨
      (log.blockNumber = log'.blockNumber ∧ log.logIndex ≤ log'.logIndex) := (hle _ _).mp hab
  replace hba : log'.blockNumber < log.blockNumber ∨
      (log'.blockNumber = log.blockNumber ∧ log'.logIndex ≤ log.logIndex) := (hle _ _).mp hba
  rw [eq_of_place hindexed (hperm.subset hlog) hlog' (by omega) (by omega)]

/-- Honest logs, completed by the source or by the pool, are these. -/
theorem collectOk_eq_map_completed {ε : Type} {f : ParsedTransferLog → Except ε TransferLog}
    {logs : List ParsedTransferLog} {chainId : ℕ}
    (h : ∀ log ∈ logs, f log = .ok (completed chain chainId log)) :
    collectOk f logs = .ok (logs.map (completed chain chainId)) := by
  refine collectOk_eq_of_map_eq ?_
  rw [List.map_map]
  exact List.map_congr_left h

/-! ## The pool and the source -/

/-- The steps of `transfer_logs`, when all of them succeed. -/
theorem transferLogs_steps {logs : List TransferLog} :
    RpcRangeSource.transferLogs libs calls range = .ok logs
      ↔ range.fromBlock ≤ range.toBlock ∧ range.chainId = calls.logs.manager.expectedChainId
        ∧ ∃ providerId rawLogs parsed headers found,
          (calls.logs.manager.requestFirstSuccess calls.logs.answers calls.logs.now
            "eth_getLogs").1 = .ok (providerId, .array rawLogs)
          ∧ RpcRangeSource.parsedLogs libs range rawLogs = .ok parsed
          ∧ collectOk (RpcRangeSource.fetchHeader libs calls)
            (sortedSet (parsed.map ParsedTransferLog.blockNumber)) = .ok headers
          ∧ collectOk (RpcRangeSource.attachHeader range providerId headers) parsed = .ok found
          ∧ found.insertionSort (fun a b => a.blockNumber < b.blockNumber ∨
            (a.blockNumber = b.blockNumber ∧ a.logIndex ≤ b.logIndex)) = logs := by
  unfold RpcRangeSource.transferLogs TransferLogRange.validate
  rw [ensure_bind_eq_ok, decide_eq_true_eq]
  refine and_congr_right fun _ => ?_
  dsimp only
  rw [ensure_bind_eq_ok, decide_eq_true_eq]
  refine and_congr_right fun _ => ?_
  constructor
  · intro h
    obtain ⟨⟨providerId, value⟩, hvalue, h⟩ := Except.bind_eq_ok.mp h
    obtain ⟨rawLogs, hraw, h⟩ := Except.bind_eq_ok.mp h
    obtain ⟨parsed, hparsed, h⟩ := Except.bind_eq_ok.mp h
    obtain ⟨headers, hheaders, h⟩ := Except.bind_eq_ok.mp h
    obtain ⟨found, hfound, hlogs⟩ := Except.bind_eq_ok.mp h
    have harray : value = .array rawLogs := JsonValue.asArray_eq_some.mp (orError_eq_ok.mp hraw)
    rw [harray] at hvalue
    exact ⟨providerId, rawLogs, parsed, headers, found, hvalue, hparsed, hheaders, hfound,
      Except.pure_eq_ok.mp hlogs⟩
  · rintro ⟨providerId, rawLogs, parsed, headers, found, hvalue, hparsed, hheaders, hfound, rfl⟩
    exact Except.bind_eq_ok.mpr ⟨_, hvalue, Except.bind_eq_ok.mpr ⟨rawLogs, rfl,
      Except.bind_eq_ok.mpr ⟨parsed, hparsed, Except.bind_eq_ok.mpr ⟨headers, hheaders,
      Except.bind_eq_ok.mpr ⟨found, hfound, rfl⟩⟩⟩⟩⟩

/-- The logs a synced provider tells are those of the range. -/
theorem told_of_firstAnswering (hhonest : Honest calls range chain heights)
    (hsynced : Synced calls range heights) {i : ℕ} {value : JsonValue}
    (hi : calls.logs.firstAnswering = some i)
    (hvalue : (calls.logs.answers i).response = .ok value) :
    ∃ told, told.Perm (chain.getLogs range) ∧ WritesLogs value told := by
  obtain ⟨told, hperm, hwrites⟩ := hhonest.logs i
    (RpcProviderManager.lt_of_mem_providerCandidates (List.mem_of_find?_eq_some hi)) value hvalue
  rw [min_eq_left (hsynced i hi)] at hperm
  exact ⟨told, hperm, hwrites⟩

/-- The answer of the source, in the same words. -/
theorem source_transferLogs {head : ChainBlockRef} {logs : List TransferLog} :
    (chain.source head).transferLogs range = .ok logs
      ↔ range.fromBlock ≤ range.toBlock
        ∧ ((chain.getLogs range).map (completed chain range.chainId)).insertionSort
          (fun a b => a.blockNumber < b.blockNumber ∨
            (a.blockNumber = b.blockNumber ∧ a.logIndex ≤ b.logIndex)) = logs := by
  unfold CanonicalChain.source
  dsimp only
  by_cases hle : range.fromBlock ≤ range.toBlock
  · rw [if_pos hle, attachHeaders, collectOk_eq_map_completed (fun _ => attachHeader_chain)]
    exact ⟨fun h => ⟨hle, Except.ok.inj h⟩, fun h => congrArg Except.ok h.2⟩
  · rw [if_neg hle]
    exact iff_of_false (fun h => by cases h) (fun h => hle h.1)

/-- **The pool answers as the source does**: with the same logs in the same order whenever it is
served, and never otherwise. -/
theorem transferLogs_iff_source (hhonest : Honest calls range chain heights)
    (hindexed : Indexed chain) (hsynced : Synced calls range heights) (head : ChainBlockRef)
    (logs : List TransferLog) :
    RpcRangeSource.transferLogs libs calls range = .ok logs
      ↔ Served libs calls range chain
        ∧ (chain.source head).transferLogs range = .ok logs := by
  rw [transferLogs_steps, source_transferLogs]
  constructor
  · rintro ⟨hle, hchainId, providerId, rawLogs, parsed, headers, found, hvalue, hparsed, hheaders,
      hfound, rfl⟩
    obtain ⟨i, hi, hresponse⟩ := RpcProviderManager.requestFirstSuccess_eq_ok hvalue
    obtain ⟨told, hperm, _, hraw, hremoved, hwrites⟩ :=
      told_of_firstAnswering hhonest hsynced hi hresponse
    obtain rfl := JsonValue.array.inj hraw
    have htoken : ∀ log ∈ told, log.tokenAddress = range.tokenAddress := fun log hlog =>
      RpcRangeSource.token_of_mem_getLogs (hperm.subset hlog)
    rw [parsedLogs_of_writesLogs hremoved hwrites htoken] at hparsed
    obtain rfl := Except.ok.inj hparsed
    rw [collectOk_eq_map_completed (fun log hlog => attachHeader_pool hhonest hlog
      (hperm.subset hlog) hheaders)] at hfound
    obtain rfl := Except.ok.inj hfound
    refine ⟨⟨hchainId, by rw [hi]; rfl, fun log hlog => ?_⟩, hle,
      (insertionSort_completed hindexed hperm (fun _ _ => Iff.rfl)).symm⟩
    -- the header of every log's block was fetched
    obtain ⟨p, -, hfetch⟩ := exists_of_collectOk hheaders (mem_sortedSet.mpr
      (List.mem_map_of_mem (f := ParsedTransferLog.blockNumber) (hperm.symm.subset hlog)))
    exact (fetchHeader_iff hhonest).1.mp ⟨p, hfetch⟩
  · rintro ⟨hserved, hle, rfl⟩
    obtain ⟨i, hi⟩ := Option.isSome_iff_exists.mp hserved.logs
    have hresponse := List.find?_some hi
    obtain ⟨value, hvalue⟩ := Option.isSome_iff_exists.mp hresponse
    have hvalue := Except.toOption_eq_some.mp hvalue
    obtain ⟨providerId, hfirst⟩ : ∃ providerId,
        (calls.logs.manager.requestFirstSuccess calls.logs.answers calls.logs.now
          "eth_getLogs").1 = .ok (providerId, value) :=
      requestFirstSuccess_of_firstAnswering hi hvalue
    obtain ⟨told, hperm, rawLogs, rfl, hremoved, hwrites⟩ :=
      told_of_firstAnswering hhonest hsynced hi hvalue
    have htoken : ∀ log ∈ told, log.tokenAddress = range.tokenAddress := fun log hlog =>
      RpcRangeSource.token_of_mem_getLogs (hperm.subset hlog)
    obtain ⟨headers, hheaders⟩ : ∃ headers, collectOk
        (RpcRangeSource.fetchHeader libs calls)
        (sortedSet (told.map ParsedTransferLog.blockNumber)) = .ok headers := by
      refine exists_collectOk (fun n hn => ?_)
      obtain ⟨log, hlog, rfl⟩ := List.mem_map.mp (mem_sortedSet.mp hn)
      exact (fetchHeader_iff hhonest).1.mpr (hserved.headers log (hperm.subset hlog))
    exact ⟨hle, hserved.chainId, providerId, rawLogs, told, headers, _, hfirst,
      parsedLogs_of_writesLogs hremoved hwrites htoken, hheaders,
      collectOk_eq_map_completed (fun log hlog => attachHeader_pool hhonest hlog
        (hperm.subset hlog) hheaders),
      insertionSort_completed hindexed hperm (fun _ _ => Iff.rfl)⟩

/-! ## Scans over the pool -/

section Scan

variable {cfg : PaymentScannerConfig} {db db' : PaymentDb} {newId : ℕ → Uuid}
  {fromBlock toBlock : ℕ} {matched : List MatchedPaymentInput}

/-- A head that the pool returns is a block of the chain. -/
theorem isCanonical_of_latestHead (hhonest : Honest calls range chain heights)
    {head : ChainBlockRef} (h : RpcRangeSource.latestHead libs calls = .ok head) :
    chain.IsCanonical head := by
  obtain ⟨b, hb, rfl⟩ := Except.map_eq_ok.mp h
  obtain ⟨c, hc, hnumber, hhash, -⟩ :=
    (conservative_iff libs _ _ hhonest.head (fun c (hc : c ∈ chain.blocks) => hc)).2 b hb
  show chain.hashAt b.number = some b.hash
  rw [hnumber, hhash]
  unfold CanonicalChain.hashAt
  rw [CanonicalChain.blockByNumber_of_mem hc]
  rfl

/-- Both scans go on alike once the candidates are looked up. -/
theorem lookup_iff {empty : Bool}
    {lookup : Except PaymentMatchingError (List PaymentWindowCandidate)}
    {k : List PaymentWindowCandidate → List MatchedPaymentInput} :
    (if empty = true then (do let candidates ← pure []; pure (k candidates))
      else (do
        let candidates ← lookup.mapError RpcRangeSource.RpcMatchingError.matching
        pure (k candidates))) = .ok matched
      ↔ (if empty = true then (do let candidates ← pure []; pure (k candidates))
        else (do let candidates ← lookup; pure (k candidates))) = .ok matched := by
  cases empty with
  | true => exact ⟨fun h => congrArg Except.ok (Except.ok.inj h),
      fun h => congrArg Except.ok (Except.ok.inj h)⟩
  | false =>
    rw [if_neg Bool.false_ne_true, if_neg Bool.false_ne_true, Except.bind_eq_ok, Except.bind_eq_ok]
    simp only [Except.mapError_eq_ok, Except.pure_eq_ok]

/-- **A scan over the pool is a scan over the source**, under the head the pool returned: it
matches the same payments whenever the pool is served, and none otherwise. -/
theorem matchRange_iff_source
    (hhonest : Honest calls (RpcRangeSource.scanRange cfg.stream fromBlock toBlock) chain heights)
    (hindexed : Indexed chain)
    (hsynced : Synced calls (RpcRangeSource.scanRange cfg.stream fromBlock toBlock) heights) :
    RpcRangeSource.matchRange libs calls cfg db newId fromBlock toBlock = .ok matched
      ↔ Served libs calls (RpcRangeSource.scanRange cfg.stream fromBlock toBlock) chain
        ∧ ∃ head, RpcRangeSource.latestHead libs calls = .ok head
          ∧ chain.IsCanonical head
          ∧ matchRange cfg (chain.source head) db newId fromBlock toBlock = .ok matched := by
  unfold RpcRangeSource.matchRange matchRange
  constructor
  · intro h
    obtain ⟨hmax, h⟩ := ensure_bind_eq_ok.mp h
    obtain ⟨logs, hlogs, h⟩ := Except.bind_eq_ok.mp h
    obtain ⟨head, hhead, h⟩ := Except.bind_eq_ok.mp h
    obtain ⟨hlimit, h⟩ := ensure_bind_eq_ok.mp h
    have hhead := Except.mapError_eq_ok.mp hhead
    obtain ⟨hserved, hsource⟩ := (transferLogs_iff_source hhonest hindexed hsynced head logs).mp
      (Except.mapError_eq_ok.mp hlogs)
    exact ⟨hserved, head, hhead, isCanonical_of_latestHead hhonest hhead,
      ensure_bind_eq_ok.mpr ⟨hmax, Except.bind_eq_ok.mpr ⟨logs, Except.mapError_eq_ok.mpr hsource,
      Except.bind_eq_ok.mpr ⟨head, rfl, ensure_bind_eq_ok.mpr ⟨hlimit, lookup_iff.mp h⟩⟩⟩⟩⟩
  · rintro ⟨hserved, head, hhead, -, h⟩
    obtain ⟨hmax, h⟩ := ensure_bind_eq_ok.mp h
    obtain ⟨logs, hlogs, h⟩ := Except.bind_eq_ok.mp h
    obtain ⟨head', hhead', h⟩ := Except.bind_eq_ok.mp h
    obtain ⟨hlimit, h⟩ := ensure_bind_eq_ok.mp h
    obtain rfl : head = head' := Except.ok.inj hhead'
    have hpool := (transferLogs_iff_source hhonest hindexed hsynced head logs).mpr
      ⟨hserved, Except.mapError_eq_ok.mp hlogs⟩
    exact ensure_bind_eq_ok.mpr ⟨hmax, Except.bind_eq_ok.mpr ⟨logs,
      Except.mapError_eq_ok.mpr hpool, Except.bind_eq_ok.mpr ⟨head,
      Except.mapError_eq_ok.mpr hhead, ensure_bind_eq_ok.mpr ⟨hlimit, lookup_iff.mpr h⟩⟩⟩⟩

/-- **A pool of honest providers answers as the source of their chain.** What it reads of a
range are the logs that the source answers with, in the same order, whenever it is served; and a
scan over it matches what a scan over the source matches, under the head it returned. -/
theorem pool_answers_as_source (libs : RpcLibraries) (calls : RangeCalls)
    (chain : CanonicalChain) (heights : ℕ → ℕ) (cfg : PaymentScannerConfig) (db : PaymentDb)
    (newId : ℕ → Uuid) (fromBlock toBlock : ℕ)
    (hhonest : Honest calls (RpcRangeSource.scanRange cfg.stream fromBlock toBlock) chain heights)
    (hindexed : Indexed chain)
    (hsynced : Synced calls (RpcRangeSource.scanRange cfg.stream fromBlock toBlock) heights) :
    (∀ head logs, RpcRangeSource.transferLogs libs calls
          (RpcRangeSource.scanRange cfg.stream fromBlock toBlock) = .ok logs
        ↔ Served libs calls (RpcRangeSource.scanRange cfg.stream fromBlock toBlock) chain
          ∧ (chain.source head).transferLogs
            (RpcRangeSource.scanRange cfg.stream fromBlock toBlock) = .ok logs)
      ∧ ∀ matched,
        RpcRangeSource.matchRange libs calls cfg db newId fromBlock toBlock = .ok matched
          ↔ Served libs calls (RpcRangeSource.scanRange cfg.stream fromBlock toBlock) chain
            ∧ ∃ head, RpcRangeSource.latestHead libs calls = .ok head
              ∧ chain.IsCanonical head
              ∧ matchRange cfg (chain.source head) db newId fromBlock toBlock = .ok matched :=
  ⟨transferLogs_iff_source hhonest hindexed hsynced,
    fun _ => matchRange_iff_source hhonest hindexed hsynced⟩

/-- **From the wire to the table.** A batch that was matched over the pool and committed leaves
exactly one row that is not orphaned for every transfer of the range to an order. -/
theorem storedOnce_of_pool (libs : RpcLibraries) (calls : RangeCalls)
    (chain : CanonicalChain) (heights : ℕ → ℕ) (cfg : PaymentScannerConfig) (db : PaymentDb)
    (newId : ℕ → Uuid) (now : Timestamp) (lease : ScanCursorLease) (toBlock : ℕ)
    (matched : List MatchedPaymentInput) (records : List PaymentRecord) (db' : PaymentDb)
    (hhonest : Honest calls
      (RpcRangeSource.scanRange cfg.stream (lease.lastScannedBlock + 1) toBlock) chain heights)
    (hindexed : Indexed chain)
    (hsynced : Synced calls
      (RpcRangeSource.scanRange cfg.stream (lease.lastScannedBlock + 1) toBlock) heights)
    (hschema : db.Schema)
    (hmatch : RpcRangeSource.matchRange libs calls cfg db newId (lease.lastScannedBlock + 1)
      toBlock = .ok matched)
    (hcommit : commitScannedBatch db now ((⟨lease, toBlock, chain⟩ : Scan).batch cfg matched)
      = .ok (records, db')) :
    db'.position cfg.stream = some ⟨toBlock, lease.seenKvReorgEpoch⟩
      ∧ ∀ log ∈ chain.transfersIn
          (RpcRangeSource.scanRange cfg.stream (lease.lastScannedBlock + 1) toBlock),
        db.knows cfg.stream log.toAddress = true →
          db'.payments.countP (fun p => p.isLiveOf cfg.stream
            && decide (p.log = log.toParsedTransferLog)) = 1 := by
  obtain ⟨-, head, -, -, hsource⟩ := (matchRange_iff_source hhonest hindexed hsynced).mp hmatch
  refine ⟨(position_of_commit hcommit).2.2.1, fun log hlog hknown => ?_⟩
  exact storedOnce_of_commit hschema hsource rfl rfl hcommit hlog hknown

end Scan

end HonestPool

/-! ## A pool that reads a payment -/

namespace SmallPool

open HonestPool

/-- The log as the chain has it. -/
def paidTransfer : ParsedTransferLog := ⟨SmallScanner.transfer, 1, 0xa1⟩

theorem writesLog_paidLog : WritesLog paidLog paidTransfer :=
  have hread : parseTransferLog plainLibraries paidLog = .ok paidTransfer := by decide +kernel
  parseTransferLog_eq_ok_iff.mp hread

theorem writesChainBlock_paidBlock : WritesChainBlock paidBlock paid :=
  have hread : parseBlock plainLibraries paidBlock "" = .ok ⟨"", ⟨1, 0xa1, 0x90, 1000000⟩⟩ := by
    decide +kernel
  ⟨⟨1, 0xa1, 0x90, 1000000⟩, ⟨rfl, rfl, rfl⟩,
    (parseBlock_eq_ok_iff.mp hread).2⟩

theorem honest_calls (counter : ℕ) : Honest (calls counter) range chain heights where
  logs := by
    intro i hi value h
    by_cases hzero : i = 0
    · subst hzero
      obtain rfl := Except.ok.inj h
      exact ⟨[], by decide, [], rfl, fun _ hmem => (List.not_mem_nil hmem).elim, .nil⟩
    · have hanswer : (calls counter).logs.answers i = ⟨.ok (.array [paidLog]), 7⟩ := if_neg hzero
      have hheight : heights i = 1 := if_neg hzero
      rw [hanswer] at h
      obtain rfl := Except.ok.inj h
      rw [hheight]
      refine ⟨[paidTransfer], by decide, [paidLog], rfl, ?_, .cons writesLog_paidLog .nil⟩
      decide +kernel
  headers := by
    intro n i hi value h
    by_cases hone : n = 1
    · subst hone
      by_cases hzero : i = 0
      · subst hzero
        exact Or.inl (Except.ok.inj h).symm
      · have hanswer : ((calls counter).header 1).answers i = ⟨.ok paidBlock, 7⟩ := if_neg hzero
        rw [hanswer] at h
        exact Or.inr ⟨paid, rfl, Except.ok.inj h ▸ writesChainBlock_paidBlock⟩
    · have hanswer : (calls counter).header n = ⟨_, 7, noBlock⟩ := congrArg _ (if_neg hone)
      rw [hanswer] at h
      exact Or.inl (Except.ok.inj h).symm
  head := by
    intro i hi value h
    by_cases hzero : i = 0
    · subst hzero
      cases h
    · have hanswer : (calls counter).head.answers i = ⟨.ok paidBlock, 7⟩ := if_neg hzero
      rw [hanswer] at h
      exact Or.inr ⟨paid, by decide, Except.ok.inj h ▸ writesChainBlock_paidBlock⟩

/-- The second provider, which has seen block 1, is the first asked. -/
theorem synced_calls : Synced (calls 1) range heights := by
  intro i hi
  have hfirst : (calls 1).logs.firstAnswering = some 1 := by decide +kernel
  obtain rfl := Option.some.inj (hfirst.symm.trans hi)
  decide

end SmallPool

namespace HonestPool

open SmallPool

/-- The pool reads the payment and matches it as the source does. -/
theorem pool_answers_as_source_payment :
    ∃ head payments, RpcRangeSource.matchRange plainLibraries (calls 1) SmallScanner.config leased
        (SmallScanner.input 0).newId 1 1 = .ok payments
      ∧ matchRange SmallScanner.config (chain.source head) leased (SmallScanner.input 0).newId 1 1
        = .ok payments := by
  obtain ⟨payments, -, -, hmatch, -⟩ := of_committed 1 (by decide +kernel)
  obtain ⟨-, head, -, -, hsource⟩ := ((pool_answers_as_source plainLibraries (calls 1) chain heights
    SmallScanner.config leased (SmallScanner.input 0).newId 1 1 (honest_calls 1) (by decide)
    synced_calls).2 payments).mp hmatch
  exact ⟨head, payments, hmatch, hsource⟩

/-- The payment the pool told of has its row. -/
theorem storedOnce_of_pool_payment :
    ∃ payments records db',
      RpcRangeSource.matchRange plainLibraries (calls 1) SmallScanner.config leased
          (SmallScanner.input 0).newId 1 1 = .ok payments
        ∧ commitScannedBatch leased 0
          ((⟨lease, 1, chain⟩ : Scan).batch SmallScanner.config payments) = .ok (records, db')
        ∧ db'.payments.countP (fun p => p.isLiveOf SmallScanner.config.stream
          && decide (p.log = paidTransfer)) = 1 := by
  obtain ⟨payments, records, db', hmatch, hcommit⟩ := of_committed 1 (by decide +kernel)
  have hrow := (storedOnce_of_pool plainLibraries (calls 1) chain heights SmallScanner.config leased
    (SmallScanner.input 0).newId 0 lease 1 payments records db' (honest_calls 1) (by decide)
    synced_calls ⟨⟨by decide, by decide, by decide, by decide, by decide⟩, by decide, by decide⟩
    hmatch hcommit).2 ⟨paidTransfer, 1, 1000000⟩ (by decide) (by decide)
  exact ⟨payments, records, db', hmatch, hcommit, hrow⟩

end HonestPool
