import Pay3.RpcRangeSource
import Pay3.ScannerMoves

/-!
# Scanned means complete

The cursor moves over a range once the logs of the range were read. No provider
forges here; but some lag, and a provider that has not seen a block answers
`eth_getLogs` as if the block had no logs.

The logs come from one provider, the first that answers in the order of the
rotation. Its answer is checked against the headers of the other providers, and
only for the blocks it has logs of: a block it has not seen is not checked at
all. So a range is complete exactly when that one provider has seen every block
of it with a transfer of the token. How many of the others have, and which head
they agree on, makes no difference, and a block that was missed is behind the
cursor.
-/

namespace RpcRangeSource

section World

variable (libs : RpcLibraries) (calls : RangeCalls) (range : TransferLogRange)
  (chain : CanonicalChain) (heights : ℕ → ℕ)

/-- The header is that of a block of the chain. -/
def OfChain (b : BlockHeader) : Prop :=
  ∃ c ∈ chain.blocks, c.number = b.number ∧ c.hash = b.hash ∧ c.timestamp = b.timestamp

instance (b : BlockHeader) : Decidable (OfChain chain b) :=
  inferInstanceAs (Decidable (∃ c ∈ chain.blocks, _))

/-- The block a provider answers a request with. -/
def blockAnswer (call : PoolCall) (i : ℕ) : Option ProviderBlock :=
  answeredBlock libs call.answers call.manager.providerId i

/-- **Providers that lag and never forge**: asked for logs, the provider `i` knows
the blocks up to `heights i` and answers as if there were no others; a block it
answers with is a block of the chain, and the one asked for. -/
structure NeverForges : Prop where
  logs : ∀ i < calls.logs.manager.providers.length, ∀ value,
    (calls.logs.answers i).response = .ok value →
    ∃ rawLogs, value = .array rawLogs ∧ (∀ rawLog ∈ rawLogs, isRemoved rawLog = false)
      ∧ rawLogs.map (parseTransferLog libs)
        = (chain.getLogs { range with toBlock := min range.toBlock (heights i) }).map Except.ok
  headers : ∀ n, ∀ i < (calls.header n).manager.providers.length, ∀ b,
    blockAnswer libs (calls.header n) i = some b →
    b.block.number = n ∧ OfChain chain b.block
  head : ∀ i < calls.head.manager.providers.length, ∀ b,
    blockAnswer libs calls.head i = some b → OfChain chain b.block

/-- The providers that have seen every block up to a number. -/
def syncedTo (number : ℕ) : List ℕ :=
  (List.range calls.logs.manager.providers.length).filter (fun i => decide (number ≤ heights i))

/-- **Every log of the chain in the range was read.** -/
def Complete : Prop :=
  ∃ logs, transferLogs libs calls range = .ok logs
    ∧ ∀ log ∈ chain.getLogs range, ∃ l ∈ logs, l.toParsedTransferLog = log

/-- **The provider whose logs are taken has seen every block of the range with a
transfer of the token.** -/
def SourceSynced : Prop :=
  ∀ i ∈ calls.logs.firstAnswering, ∀ b ∈ chain.blocks, range.fromBlock ≤ b.number →
    b.number ≤ range.toBlock → (∃ t ∈ b.transfers, t.tokenAddress = range.tokenAddress) →
    b.number ≤ heights i

end World

variable {libs : RpcLibraries} {calls : RangeCalls} {range : TransferLogRange}
  {chain : CanonicalChain} {heights : ℕ → ℕ}

/-- Every log of a chain's answer is of the token asked for. -/
theorem token_of_mem_getLogs {log : ParsedTransferLog} (h : log ∈ chain.getLogs range) :
    log.tokenAddress = range.tokenAddress := by
  obtain ⟨b, -, -, -, t, -, htoken, -, rfl⟩ := CanonicalChain.mem_getLogs.mp h
  exact htoken

/-- The range of a provider's answer, in the blocks of the chain. -/
theorem mem_getLogs_height {height : ℕ} {log : ParsedTransferLog} :
    log ∈ chain.getLogs { range with toBlock := min range.toBlock height }
      ↔ log ∈ chain.getLogs range ∧ log.blockNumber ≤ height := by
  rw [CanonicalChain.mem_getLogs, CanonicalChain.mem_getLogs]
  constructor
  · rintro ⟨b, hb, hfrom, hto, t, ht, htoken, hrec, rfl⟩
    obtain ⟨hto, hheight⟩ := le_min_iff.mp hto
    exact ⟨⟨b, hb, hfrom, hto, t, ht, htoken, hrec, rfl⟩, hheight⟩
  · rintro ⟨⟨b, hb, hfrom, hto, t, ht, htoken, hrec, rfl⟩, hheight⟩
    exact ⟨b, hb, hfrom, le_min hto hheight, t, ht, htoken, hrec, rfl⟩

/-- The logs read from the answer of a provider are those of the blocks it has
seen. -/
theorem parsedLogs_of_answer {height : ℕ} {rawLogs : List JsonValue}
    (hremoved : ∀ rawLog ∈ rawLogs, isRemoved rawLog = false)
    (hmap : rawLogs.map (parseTransferLog libs)
      = (chain.getLogs { range with toBlock := min range.toBlock height }).map Except.ok) :
    parsedLogs libs range rawLogs
      = .ok (chain.getLogs { range with toBlock := min range.toBlock height }) := by
  have hkeep : rawLogs.filter (fun rawLog => !isRemoved rawLog) = rawLogs := by
    rw [List.filter_eq_self]
    intro rawLog hmem
    rw [hremoved rawLog hmem]
    rfl
  unfold parsedLogs
  rw [hkeep, collectOk_eq_of_map_eq hmap]
  refine Except.pure_eq_ok.mpr (List.filter_eq_self.mpr (fun log hlog => ?_))
  exact decide_eq_true (token_of_mem_getLogs (mem_getLogs_height.mp hlog).1)

/-- A header that was fetched has the number it was asked for by. -/
theorem number_of_fetchHeader (hforge : NeverForges libs calls range chain heights) {n : ℕ}
    {p : ℕ × BlockHeader} (h : fetchHeader libs calls n = .ok p) :
    p.1 = n ∧ p.2.number = n := by
  obtain ⟨b, hb, rfl⟩ := Except.map_eq_ok.mp h
  obtain ⟨-, -, ⟨c, hc, rfl⟩, -⟩ := RpcProviderManager.of_conservative_requestBlocks hb
  obtain ⟨i, hcollected, hi⟩ := List.mem_filterMap.mp hc
  have hlt := (RpcProviderManager.of_mem_collectedFrom hcollected).1
  exact ⟨rfl, (hforge.headers n i hlt c hi).1⟩

/-- **The logs read are those of the blocks the provider has seen.** -/
theorem mem_transferLogs (hforge : NeverForges libs calls range chain heights)
    {logs : List TransferLog} (h : transferLogs libs calls range = .ok logs) :
    ∃ i, calls.logs.firstAnswering = some i ∧ ∀ log : ParsedTransferLog,
      (∃ l ∈ logs, l.toParsedTransferLog = log)
        ↔ log ∈ chain.getLogs range ∧ log.blockNumber ≤ heights i := by
  obtain ⟨i, rawLogs, parsed, headers, providerId, hi, hresp, hparsed, hheaders, hmem, hall⟩ :=
    transferLogs_eq_ok h
  have hlt : i < calls.logs.manager.providers.length :=
    RpcProviderManager.lt_of_mem_providerCandidates (List.mem_of_find?_eq_some hi)
  obtain ⟨rawLogs', harray, hremoved, hmap⟩ := hforge.logs i hlt _ hresp
  cases harray
  rw [parsedLogs_of_answer hremoved hmap] at hparsed
  obtain rfl := Except.ok.inj hparsed
  have hkeeps : ∀ {log l}, attachHeader range providerId headers log = .ok l →
      l.toParsedTransferLog = log := by
    intro log l hattach
    obtain ⟨header, hheader, hhash, hl⟩ := attachHeader_eq_ok hattach
    obtain ⟨n, -, hfetch⟩ := (mem_collectOk hheaders).mp hheader
    obtain ⟨hn, hnumber⟩ := number_of_fetchHeader hforge hfetch
    rw [hl, hhash, show header.number = log.blockNumber from hnumber.trans hn.symm]
  refine ⟨i, hi, fun log => ?_⟩
  rw [← mem_getLogs_height]
  constructor
  · rintro ⟨l, hl, rfl⟩
    obtain ⟨log, hlog, hattach⟩ := (hmem l).mp hl
    rw [hkeeps hattach]
    exact hlog
  · intro hlog
    obtain ⟨l, hl, hattach⟩ := hall log hlog
    exact ⟨l, hl, hkeeps hattach⟩

/-- **A range that was read is complete exactly when the provider whose logs were
taken has seen every block of it with a transfer.** -/
theorem complete_iff (hforge : NeverForges libs calls range chain heights)
    (hany : range.recipient = none) {logs : List TransferLog}
    (h : transferLogs libs calls range = .ok logs) :
    Complete libs calls range chain ↔ SourceSynced calls range chain heights := by
  obtain ⟨i, hi, hlogs⟩ := mem_transferLogs hforge h
  constructor
  · rintro ⟨logs', hok, hcomplete⟩ j hj b hb hfrom hto ⟨t, ht, htoken⟩
    obtain rfl := Except.ok.inj (h.symm.trans hok)
    obtain rfl : i = j := Option.some.inj (hi.symm.trans hj)
    have hmem : (⟨t, b.number, b.hash⟩ : ParsedTransferLog) ∈ chain.getLogs range := by
      refine CanonicalChain.mem_getLogs.mpr ⟨b, hb, hfrom, hto, t, ht, htoken, ?_, rfl⟩
      rw [hany]
      rfl
    exact ((hlogs _).mp (hcomplete _ hmem)).2
  · intro hsynced
    refine ⟨logs, h, fun log hlog => (hlogs log).mpr ⟨hlog, ?_⟩⟩
    obtain ⟨b, hb, hfrom, hto, t, ht, htoken, -, rfl⟩ := CanonicalChain.mem_getLogs.mp hlog
    exact hsynced i hi b hb hfrom hto ⟨t, ht, htoken⟩

/-- **A scan that is committed moves the cursor to the end of its range, and has
read every log of the range exactly when the provider whose logs it took has
seen every block of it with a transfer.** -/
theorem scanned_complete_iff (libs : RpcLibraries) (calls : RangeCalls)
    (chain : CanonicalChain) (heights : ℕ → ℕ) (cfg : PaymentScannerConfig) (db db' : PaymentDb)
    (newId : ℕ → Uuid) (now : Timestamp) (lease : ScanCursorLease) (toBlock : ℕ)
    (matched : List MatchedPaymentInput) (records : List PaymentRecord)
    (hforge : NeverForges libs calls
      (scanRange cfg.stream (lease.lastScannedBlock + 1) toBlock) chain heights)
    (hmatch : matchRange libs calls cfg db newId (lease.lastScannedBlock + 1) toBlock
      = .ok matched)
    (hcommit : commitScannedBatch db now ((⟨lease, toBlock, chain⟩ : Scan).batch cfg matched)
      = .ok (records, db')) :
    db'.position cfg.stream = some ⟨toBlock, lease.seenKvReorgEpoch⟩
      ∧ (Complete libs calls (scanRange cfg.stream (lease.lastScannedBlock + 1) toBlock) chain
        ↔ SourceSynced calls (scanRange cfg.stream (lease.lastScannedBlock + 1) toBlock) chain
          heights) := by
  obtain ⟨logs, hlogs⟩ := matchRange_eq_ok hmatch
  obtain ⟨-, -, hcursor, -⟩ := position_of_commit hcommit
  exact ⟨hcursor, complete_iff hforge rfl hlogs⟩

end RpcRangeSource

/-! ## A pool with a provider that lags -/

namespace SmallPool

open RpcRangeSource

/-- A number as a provider writes it, with its leading zeros. -/
def hexText (digits value : ℕ) : JsonValue :=
  .string ("0x" ++ String.ofList (hexDigits digits value))

/-- Block 1, with the transfer that pays the order. -/
def paid : ChainBlock := ⟨1, 0xa1, 1000000, [(0x77, .success)], [SmallScanner.transfer]⟩

/-- A chain whose head it is. -/
def chain : CanonicalChain where
  blocks := [SmallScanner.genesis, paid]
  nonempty := by simp
  numbered := by decide
  mined_once := by decide
  logged_once := by decide

/-- Block 1 as a provider writes it. -/
def paidBlock : JsonValue :=
  .object [("number", hexText 1 1), ("hash", hexText 64 0xa1), ("parentHash", hexText 64 0x90),
    ("timestamp", hexText 1 1)]

/-- The log of the transfer. -/
def paidLog : JsonValue :=
  .object [("address", hexText 40 0x70),
    ("topics", .array [.string erc20TransferTopic, hexText 64 0x88, hexText 64 0xc1]),
    ("data", hexText 64 100), ("blockNumber", hexText 1 1), ("blockHash", hexText 64 0xa1),
    ("transactionHash", hexText 64 0x77), ("logIndex", hexText 1 0), ("removed", .bool false)]

/-- The first provider has seen the genesis block only. -/
def heights (i : ℕ) : ℕ := if i = 0 then 0 else 1

/-- What the providers answer to `eth_getLogs`. -/
def logAnswers (i : ℕ) : Answer :=
  if i = 0 then ⟨.ok (.array []), 7⟩ else ⟨.ok (.array [paidLog]), 7⟩

/-- What they answer about block 1. -/
def blockAnswers (i : ℕ) : Answer := if i = 0 then ⟨.ok .null, 7⟩ else ⟨.ok paidBlock, 7⟩

/-- What they answer about the head. -/
def headAnswers (i : ℕ) : Answer :=
  if i = 0 then ⟨.error (.rpcUnavailable "timeout"), 7⟩ else ⟨.ok paidBlock, 7⟩

/-- Nobody knows the block. -/
def noBlock (_ : ℕ) : Answer := ⟨.ok .null, 7⟩

/-- The requests, when the counter stands at `counter` as the logs are asked for. -/
def calls (counter : ℕ) : RangeCalls where
  logs := ⟨{ three with roundRobinCounter := counter }, 7, logAnswers⟩
  header := fun n => ⟨{ three with roundRobinCounter := counter + 1 }, 7,
    if n = 1 then blockAnswers else noBlock⟩
  head := ⟨{ three with roundRobinCounter := counter + 2 }, 7, headAnswers⟩
  header_pool := fun _ => ⟨rfl, rfl, rfl⟩
  head_pool := ⟨rfl, rfl, rfl⟩

/-- The range the scanner asks for. -/
def range : TransferLogRange := scanRange SmallScanner.config.stream 1 1

/-- The first provider lags, and none forges. -/
theorem neverForges_calls (counter : ℕ) :
    NeverForges plainLibraries (calls counter) range chain heights where
  logs := by
    intro i hi value h
    by_cases hzero : i = 0
    · subst hzero
      obtain rfl := Except.ok.inj h
      exact ⟨[], rfl, by decide, by decide⟩
    · have hanswer : logAnswers i = ⟨.ok (.array [paidLog]), 7⟩ := if_neg hzero
      have hheight : heights i = 1 := if_neg hzero
      rw [show (calls counter).logs.answers i = logAnswers i from rfl, hanswer] at h
      obtain rfl := Except.ok.inj h
      refine ⟨[paidLog], rfl, by decide +kernel, ?_⟩
      rw [hheight]
      decide +kernel
  headers := by
    intro n i hi b h
    by_cases hone : n = 1
    · subst hone
      have hall : ∀ i < 3, ∀ b ∈ blockAnswer plainLibraries ⟨three, 7, blockAnswers⟩ i,
          b.block.number = 1 ∧ OfChain chain b.block := by decide +kernel
      exact hall i hi b h
    · -- no provider answers with a block
      have hnone : (calls counter).header n = ⟨_, 7, noBlock⟩ := congrArg _ (if_neg hone)
      rw [hnone] at h
      cases h
  head := by
    intro i hi b h
    have hall : ∀ i < 3, ∀ b ∈ blockAnswer plainLibraries ⟨three, 7, headAnswers⟩ i,
        OfChain chain b.block := by decide +kernel
    exact hall i hi b h

/-- The cursor of the token before the scan, under the lease of the scanner. -/
def leased : PaymentDb :=
  { (SmallScanner.initial chain).db with cursors := [⟨1, 0x70, 0, 0, some "scanner", some 30⟩] }

/-- The lease. -/
def lease : ScanCursorLease := ⟨⟨1, 0x70⟩, "scanner", 30, 0, 0⟩

/-- What the scanner matches. -/
def matched (counter : ℕ) : Except RpcMatchingError (List MatchedPaymentInput) :=
  matchRange plainLibraries (calls counter) SmallScanner.config leased (SmallScanner.input 0).newId 1 1

/-- What it commits. -/
def committed (counter : ℕ) : Option (List PaymentRecord × PaymentDb) := do
  let payments ← (matched counter).toOption
  (commitScannedBatch leased 0
    ((⟨lease, 1, chain⟩ : Scan).batch SmallScanner.config payments)).toOption

theorem of_committed (counter : ℕ) (h : (committed counter).isSome = true) :
    ∃ payments records db', matched counter = .ok payments
      ∧ commitScannedBatch leased 0 ((⟨lease, 1, chain⟩ : Scan).batch SmallScanner.config payments)
        = .ok (records, db') := by
  obtain ⟨⟨records, db'⟩, h⟩ := Option.isSome_iff_exists.mp h
  obtain ⟨payments, hmatched, hcommit⟩ := Option.bind_eq_some_iff.mp h
  exact ⟨payments, records, db', Except.toOption_eq_some.mp hmatched,
    Except.toOption_eq_some.mp hcommit⟩

end SmallPool

namespace RpcRangeSource

open SmallPool

/-- When the rotation starts at a provider that has seen block 1, the payment is
read and the cursor moves over it. -/
theorem scanned_complete_of_synced :
    ∃ payments records db',
      matchRange plainLibraries (calls 1) SmallScanner.config leased (SmallScanner.input 0).newId 1 1
        = .ok payments
      ∧ commitScannedBatch leased 0 ((⟨lease, 1, chain⟩ : Scan).batch SmallScanner.config payments)
        = .ok (records, db')
      ∧ db'.position SmallScanner.config.stream = some ⟨1, 0⟩
      ∧ Complete plainLibraries (calls 1) range chain := by
  obtain ⟨payments, records, db', hmatch, hcommit⟩ := of_committed 1 (by decide +kernel)
  obtain ⟨hcursor, hiff⟩ := scanned_complete_iff plainLibraries (calls 1) chain heights
    SmallScanner.config leased db' (SmallScanner.input 0).newId 0 lease 1 payments records
    (neverForges_calls 1) hmatch hcommit
  have hsynced : SourceSynced (calls 1) range chain heights := by
    intro i hi b hb hfrom hto htoken
    have hfirst : (calls 1).logs.firstAnswering = some 1 := by decide +kernel
    obtain rfl : 1 = i := Option.some.inj (hfirst.symm.trans hi)
    exact hto
  exact ⟨payments, records, db', hmatch, hcommit, hcursor, hiff.mpr hsynced⟩

/-- **When it starts at the provider that lags, the cursor moves over a payment
that was never read**, though two of the three providers have seen the head and
the pool asks for two. -/
theorem scanned_complete_fails :
    ¬ ∀ (libs : RpcLibraries) (calls : RangeCalls) (chain : CanonicalChain)
      (heights : ℕ → ℕ) (cfg : PaymentScannerConfig) (db db' : PaymentDb) (newId : ℕ → Uuid)
      (now : Timestamp) (lease : ScanCursorLease) (toBlock : ℕ)
      (matched : List MatchedPaymentInput) (records : List PaymentRecord) (head : ChainBlockRef),
      NeverForges libs calls (scanRange cfg.stream (lease.lastScannedBlock + 1) toBlock) chain
        heights →
      latestHead libs calls = .ok head → toBlock ≤ head.number →
      calls.logs.manager.minProviderCount ≤ (syncedTo calls heights head.number).length →
      matchRange libs calls cfg db newId (lease.lastScannedBlock + 1) toBlock = .ok matched →
      commitScannedBatch db now ((⟨lease, toBlock, chain⟩ : Scan).batch cfg matched)
        = .ok (records, db') →
      Complete libs calls (scanRange cfg.stream (lease.lastScannedBlock + 1) toBlock)
        chain := by
  intro hall
  obtain ⟨payments, records, db', hmatch, hcommit⟩ := of_committed 0 (by decide +kernel)
  have hhead : latestHead plainLibraries (calls 0) = .ok ⟨1, 0xa1⟩ := by decide +kernel
  have hcomplete := hall plainLibraries (calls 0) chain heights SmallScanner.config leased db'
    (SmallScanner.input 0).newId 0 lease 1 payments records ⟨1, 0xa1⟩ (neverForges_calls 0) hhead
    (by decide) (by decide) hmatch hcommit
  obtain ⟨logs, hlogs⟩ := matchRange_eq_ok hmatch
  have hsynced := (complete_iff (neverForges_calls 0) rfl hlogs).mp hcomplete
  have hfirst : (calls 0).logs.firstAnswering = some 0 := by decide +kernel
  have hseen : (1 : ℕ) ≤ heights 0 := hsynced 0 hfirst paid (by decide) (by decide)
    (by decide) ⟨SmallScanner.transfer, by decide, rfl⟩
  exact absurd hseen (by decide)

end RpcRangeSource
