import Pay3.StoredTransfers

/-!
# The store follows the chain

When a poll returns `Idle`, the transfers stored below its cursor are those of the
canonical chain, in every run whose steps are followed: the reorganisations go no
deeper than the stream can detect, and no poll acts on what is no longer so.

Without the condition this fails. A rewind goes back a bounded number of blocks
and forgets the hash; from then on a reorganisation below is not seen, and no
error is ever raised for one that is too deep. And a poll writes and rewinds
under a cursor it read long before.
-/

/-! ## What a poll knows -/

section Knowledge

variable {cfg : TransferLogStreamConfig} {ledger : HashLedger} {chain chain' : CanonicalChain}
  {data data' : StreamData} {m n : ℕ}

/-- What goes with each place of a poll. -/
def PlaceHolds (cfg : TransferLogStreamConfig) (ledger : HashLedger) (chain : CanonicalChain)
    (cursor : TransferLogCursor) (intact : Bool) : PollPc → Prop
  | .walking last number => cfg.startBlock ≤ number ∧ number ≤ last ∧ last < cursor.nextBlock
  | .comparing last number _ => cfg.startBlock ≤ number ∧ number ≤ last ∧ last < cursor.nextBlock
  | .rewinding firstDiverged => cfg.startBlock ≤ firstDiverged ∧ firstDiverged ≤ cursor.nextBlock
  | .gathering toBlock logs headers missing =>
    BatchRead cursor.nextBlock toBlock logs headers missing
      ∧ (intact = true → BatchExact cfg ledger chain cursor.nextBlock toBlock logs headers)
  | _ => True

/-- The poll has not asked for the target, or has just been told it. -/
def PollPc.beforeLogs : PollPc → Bool
  | .started => true
  | .checked => true
  | .fetching _ => true
  | _ => false

/-- **What a poll knows of a stream that was not rewound since it began**: what its cursor
says is still so, what it relies on is held as long as it is intact, and while it has
not read its batch only a reorganisation makes it otherwise. -/
structure PollHolds (cfg : TransferLogStreamConfig) (ledger : HashLedger) (chain : CanonicalChain)
    (data : StreamData) (p : Poll) : Prop where
  start_le : cfg.startBlock ≤ p.cursor.nextBlock
  next_le : p.cursor.nextBlock ≤ data.cursor.nextBlock
  last_exact : ∀ last hash, p.cursor.lastCompletedBlock = some last →
    p.cursor.lastCompletedHash = some hash →
      cfg.startBlock ≤ last ∧ p.cursor.nextBlock = last + 1
        ∧ (∀ n, cfg.startBlock ≤ n → n ≤ last → ExactAt cfg data (ledger.history hash) n)
        ∧ reorgFloor cfg last ≤ data.reach cfg
  relied : p.intact = true → Held cfg data chain (min (p.reach data) p.cursor.nextBlock)
  steady : p.pc.beforeLogs = true → p.quiet = true → p.intact = true
  place : PlaceHolds cfg ledger chain p.cursor p.intact p.pc

/-- A poll that began before a rewind knows nothing. -/
structure PollInv (cfg : TransferLogStreamConfig) (ledger : HashLedger) (chain : CanonicalChain)
    (data : StreamData) (p : Poll) : Prop where
  epoch_le : p.cursor.reorgEpoch ≤ data.cursor.reorgEpoch
  holds : p.running = true → p.cursor.reorgEpoch = data.cursor.reorgEpoch →
    PollHolds cfg ledger chain data p

variable {p : Poll}

/-- A poll that begins knows what the stream relies on. -/
theorem StreamInv.pollInv (h : StreamInv cfg ledger chain data) :
    PollInv cfg ledger chain data ⟨data.cursor, .started, true, true⟩ := by
  refine ⟨le_refl _, fun _ _ => ⟨h.start_le, le_refl _, ?_, ?_, fun _ _ => rfl, trivial⟩⟩
  · intro last hash hlast hhash
    obtain ⟨hstart, hnext, hexact⟩ := h.last_exact last hash hlast hhash
    refine ⟨hstart, hnext, hexact, ?_⟩
    unfold StreamData.reach
    rw [hlast, hhash]
  · intro _
    refine h.held.mono ?_
    unfold Poll.reach StreamData.reach
    dsimp only
    split
    · exact (min_le_left 0 _).trans (Nat.zero_le _)
    · exact min_le_left _ _

/-- Before it has read its batch a poll relies on nothing above its cursor. -/
theorem Poll.reach_le_of_beforeLogs (hbefore : p.pc.beforeLogs = true) :
    p.reach data ≤ p.cursor.nextBlock := by
  obtain ⟨cursor, pc, intact, quiet⟩ := p
  cases pc with
  | started =>
    unfold Poll.reach
    dsimp only
    split
    · exact Nat.zero_le _
    · exact le_refl _
  | checked => exact le_refl _
  | fetching toBlock => exact le_refl _
  | walking last number => cases hbefore
  | comparing last number current => cases hbefore
  | rewinding f => cases hbefore
  | gathering toBlock logs headers missing => cases hbefore
  | returned result => cases hbefore

/-- A chain that only grew leaves the blocks alone that were there. -/
theorem leavesBelow_of_prefix (hpre : chain.blocks <+: chain'.blocks)
    (hlength : ∀ n, cfg.startBlock ≤ n → n < m → n < chain.blocks.length) :
    leavesBelow cfg chain chain' m = true := by
  rw [leavesBelow_eq_true]
  intro n hstart hn
  have hlt := hlength n hstart hn
  have hsame : chain'.blocks[n]? = chain.blocks[n]? := by
    rw [List.getElem?_eq_getElem hlt, List.prefix_iff_getElem?.mp hpre n hlt]
  refine ⟨lt_of_lt_of_le hlt hpre.length_le, ?_⟩
  unfold transfersAt
  rw [hsame]

/-- **A poll after a change of the chain.** -/
theorem PollHolds.newChain (h : PollHolds cfg ledger chain data p) :
    PollHolds cfg ledger chain' data (p.onNewChain cfg data chain chain') := by
  have hreach : (p.onNewChain cfg data chain chain').reach data = p.reach data := rfl
  have hintact : (p.onNewChain cfg data chain chain').intact = true →
      p.intact = true ∧ leavesBelow cfg chain chain' (p.reach data) = true := by
    intro hi
    exact Bool.and_eq_true_iff.mp hi
  refine ⟨h.start_le, h.next_le, h.last_exact, ?_, ?_, ?_⟩
  · intro hi
    obtain ⟨hwas, hleaves⟩ := hintact hi
    rw [hreach]
    exact (h.relied hwas).newChain hleaves (min_le_left _ _)
  · intro hbefore hquiet
    obtain ⟨hwas, hpre⟩ := Bool.and_eq_true_iff.mp hquiet
    have hi := h.steady hbefore hwas
    refine Bool.and_eq_true_iff.mpr ⟨hi, leavesBelow_of_prefix (List.isPrefixOf_iff_prefix.mp hpre)
      (fun n hstart hn => ?_)⟩
    have hle : p.reach data ≤ p.cursor.nextBlock := p.reach_le_of_beforeLogs hbefore
    exact (h.relied hi n hstart (by omega)).2
  · have hplace := h.place
    have hstart := h.start_le
    obtain ⟨cursor, pc, intact, quiet⟩ := p
    cases pc with
    | gathering toBlock logs headers missing =>
      refine ⟨hplace.1, fun hi => ?_⟩
      obtain ⟨hwas, hleaves⟩ := hintact hi
      exact (hplace.2 hwas).newChain hplace.1 hstart hleaves
    | walking last number => exact hplace
    | comparing last number current => exact hplace
    | rewinding f => exact hplace
    | started => trivial
    | checked => trivial
    | fetching toBlock => trivial
    | returned result => trivial

/-- What a poll relies on below its cursor is the same after the stream has advanced. -/
theorem Advanced.reach_eq (h : Advanced cfg data data')
    (hnext : p.cursor.nextBlock ≤ data.cursor.nextBlock)
    (hplace : PlaceHolds cfg ledger chain p.cursor p.intact p.pc) : p.reach data' = p.reach data := by
  obtain ⟨cursor, pc, intact, quiet⟩ := p
  cases pc with
  | comparing last number current =>
    obtain ⟨-, hle, hlt⟩ := hplace
    dsimp only at hnext hlt
    unfold Poll.reach
    dsimp only
    rw [h.headers number (by omega)]
  | started => rfl
  | walking last number => rfl
  | rewinding f => rfl
  | checked => rfl
  | fetching toBlock => rfl
  | gathering toBlock logs headers missing => rfl
  | returned result => rfl

/-- **Another poll's write takes nothing from what a poll knows.** -/
theorem PollInv.advanced (hadv : Advanced cfg data data') (h : PollInv cfg ledger chain data p) :
    PollInv cfg ledger chain data' p := by
  refine ⟨hadv.epoch.symm ▸ h.epoch_le, fun hrun hepoch => ?_⟩
  have hold := h.holds hrun (hepoch.trans hadv.epoch)
  have hnext := hold.next_le
  have hreach := hadv.reach_eq hnext hold.place
  refine ⟨hold.start_le, hnext.trans (le_of_lt hadv.next_lt), ?_, ?_, hold.steady, hold.place⟩
  · intro last hash hlast hhash
    obtain ⟨hstart, hcursor, hexact, -⟩ := hold.last_exact last hash hlast hhash
    refine ⟨hstart, hcursor, fun n hn hle => ?_, hadv.floor_le last (by omega)⟩
    exact hadv.exactAt (by omega) (hexact n hn hle)
  · intro hi
    rw [hreach]
    intro n hstart hn
    obtain ⟨hexact, hlength⟩ := hold.relied hi n hstart hn
    exact ⟨hadv.exactAt (by omega) hexact, hlength⟩

/-- A poll that began before a rewind has nothing to keep. -/
theorem PollInv.rewound (h : PollInv cfg ledger chain data p)
    (hepoch : data.cursor.reorgEpoch < data'.cursor.reorgEpoch) :
    PollInv cfg ledger chain data' p :=
  ⟨le_of_lt (lt_of_le_of_lt h.epoch_le hepoch), fun _ heq =>
    absurd heq (ne_of_lt (lt_of_le_of_lt h.epoch_le hepoch))⟩

/-- A poll that has returned has nothing to keep. -/
theorem PollInv.returned (hepoch : p.cursor.reorgEpoch ≤ data.cursor.reorgEpoch)
    (hrun : p.running = false) : PollInv cfg ledger chain data p :=
  ⟨hepoch, fun h => by rw [hrun] at h; cases h⟩

end Knowledge

/-! ## The steps of a poll -/

section Steps

variable {cfg : TransferLogStreamConfig} {ledger : HashLedger} {s : LogStoreState}
  {tags : Except RpcChainError (ℕ × ℕ)} {cursor : TransferLogCursor} {intact quiet : Bool}

/-- A poll goes on to another place. -/
theorem PollHolds.goOn {chain : CanonicalChain} {data : StreamData} {pc pc' : PollPc}
    (h : PollHolds cfg ledger chain data ⟨cursor, pc, intact, quiet⟩)
    (hrelied : intact = true →
      Held cfg data chain (min (Poll.reach data ⟨cursor, pc', intact, quiet⟩) cursor.nextBlock))
    (hbefore : pc'.beforeLogs = true → pc.beforeLogs = true)
    (hplace : PlaceHolds cfg ledger chain cursor intact pc') :
    PollHolds cfg ledger chain data ⟨cursor, pc', intact, quiet⟩ :=
  ⟨h.start_le, h.next_le, h.last_exact, hrelied, fun hb => h.steady (hbefore hb), hplace⟩

/-- **The hash of the last completed block is compared.** If it is canonical, everything
stored is; if not, what is below the floor is. -/
theorem PollHolds.detected (hs : StreamInv cfg ledger s.chain s.data) (hk : ledger.Knows s.chain)
    (h : PollHolds cfg ledger s.chain s.data ⟨cursor, .started, intact, quiet⟩)
    (hrun : Poll.running ⟨cursor, detectReorg cfg (s.source tags) cursor, intact, quiet⟩ = true) :
    PollHolds cfg ledger s.chain s.data
      ⟨cursor, detectReorg cfg (s.source tags) cursor, intact, quiet⟩ := by
  have hlast := h.last_exact
  have hrelied := h.relied
  unfold Poll.reach at hrelied
  dsimp only at hlast hrelied
  unfold detectReorg at hrun ⊢
  cases hl : cursor.lastCompletedBlock with
  | none =>
    rw [hl] at hrelied
    exact h.goOn hrelied (fun _ => rfl) trivial
  | some last =>
    cases hh : cursor.lastCompletedHash with
    | none =>
      rw [hl, hh] at hrelied
      exact h.goOn hrelied (fun _ => rfl) trivial
    | some hash =>
      obtain ⟨hstart, hnext, hexact, hfloor⟩ := hlast last hash hl hh
      rw [hl, hh] at hrun
      dsimp only at hrun ⊢
      cases hb : (s.source tags).blockByNumber last with
      | error e =>
        rw [hb] at hrun
        cases hrun
      | ok current =>
        have hblock := LogStoreState.blockByNumber_of_source hb
        dsimp only
        by_cases hsame : current.hash = hash
        · rw [if_pos hsame]
          refine h.goOn (fun _ => ?_) (fun _ => rfl) trivial
          refine (hk.held_of_history hblock (hsame ▸ hexact)).mono ?_
          rw [← hnext]
          exact min_le_right _ _
        · rw [if_neg hsame, if_pos (StreamInv.reorgFloor_le hstart)]
          refine h.goOn (fun _ => hs.held.mono ((min_le_left _ _).trans hfloor)) (by simp [PollPc.beforeLogs])
            ⟨le_max_right _ _, StreamInv.reorgFloor_le hstart, by omega⟩

/-- The chain answers with a header: if it is the stored one, the logs of the block are
right. -/
theorem PollHolds.asked {last number : ℕ} (hs : StreamInv cfg ledger s.chain s.data)
    (hk : ledger.Knows s.chain)
    (h : PollHolds cfg ledger s.chain s.data ⟨cursor, .walking last number, intact, quiet⟩)
    (hrun : Poll.running ⟨cursor, askHeader (s.source tags) last number, intact, quiet⟩ = true) :
    PollHolds cfg ledger s.chain s.data
      ⟨cursor, askHeader (s.source tags) last number, intact, quiet⟩ := by
  obtain ⟨hstart, hle, hlt⟩ := h.place
  unfold askHeader at hrun ⊢
  cases hb : (s.source tags).blockByNumber number with
  | error e =>
    rw [hb] at hrun
    cases hrun
  | ok current =>
    have hblock := LogStoreState.blockByNumber_of_source hb
    refine h.goOn (fun hi => ?_) (by simp [PollPc.beforeLogs]) ⟨hstart, hle, hlt⟩
    have hheld := h.relied hi
    unfold Poll.reach at hheld ⊢
    dsimp only at hheld ⊢
    by_cases hsame : s.data.headerHash number = some current.hash
    · rw [if_pos hsame]
      intro n hn hnlt
      by_cases hnumber : n = number
      · subst hnumber
        exact ⟨hs.exactAt_of_headerHash hk hstart hblock hsame,
          CanonicalChain.lt_length_of_blockByNumber hblock⟩
      · exact hheld n hn (by omega)
    · rw [if_neg hsame]
      exact hheld

/-- The header is compared with the stored one. -/
theorem PollHolds.compared {last number : ℕ} {current : BlockHash}
    (h : PollHolds cfg ledger s.chain s.data
      ⟨cursor, .comparing last number current, intact, quiet⟩) :
    PollHolds cfg ledger s.chain s.data
      ⟨cursor, compareHeader s.data last number current, intact, quiet⟩ := by
  obtain ⟨hstart, hle, hlt⟩ := h.place
  have hrelied := h.relied
  unfold Poll.reach at hrelied
  dsimp only at hlt hrelied
  unfold compareHeader
  by_cases hsame : s.data.headerHash number = some current
  · rw [if_neg (not_not.mpr hsame)]
    rw [if_pos hsame] at hrelied
    by_cases hmore : number < last
    · rw [if_pos hmore]
      exact h.goOn hrelied (by simp [PollPc.beforeLogs]) ⟨by omega, by omega, hlt⟩
    · rw [if_neg hmore]
      refine h.goOn (fun hi => (hrelied hi).mono ?_) (by simp [PollPc.beforeLogs])
        ⟨by omega, by omega⟩
      show min last cursor.nextBlock ≤ _
      omega
  · rw [if_pos hsame]
    rw [if_neg hsame] at hrelied
    exact h.goOn hrelied (by simp [PollPc.beforeLogs]) ⟨hstart, by omega⟩

/-- The poll is told the target. -/
theorem PollHolds.targeted
    (h : PollHolds cfg ledger s.chain s.data ⟨cursor, .checked, intact, quiet⟩)
    (hrun : Poll.running ⟨cursor, checkTarget cfg (s.source tags) cursor, intact, quiet⟩ = true) :
    PollHolds cfg ledger s.chain s.data
      ⟨cursor, checkTarget cfg (s.source tags) cursor, intact, quiet⟩ := by
  unfold checkTarget at hrun ⊢
  cases htarget : resolveTarget cfg (s.source tags) with
  | error e =>
    rw [htarget] at hrun
    cases hrun
  | ok target =>
    rw [htarget] at hrun
    dsimp only at hrun ⊢
    by_cases hidle : target < cursor.nextBlock
    · rw [if_pos hidle] at hrun
      cases hrun
    · rw [if_neg hidle]
      exact h.goOn h.relied (fun _ => rfl) trivial

/-- **The logs of the batch are read**, or a smaller range is tried. -/
theorem PollHolds.fetched {toBlock : ℕ} (hk : ledger.Knows s.chain)
    (h : PollHolds cfg ledger s.chain s.data ⟨cursor, .fetching toBlock, intact, quiet⟩)
    (hrun : Poll.running
      ⟨cursor, fetchLogs cfg (s.source tags) cursor toBlock, intact, quiet⟩ = true) :
    PollHolds cfg ledger s.chain s.data
      ⟨cursor, fetchLogs cfg (s.source tags) cursor toBlock, intact, quiet⟩ := by
  have hagain : ∀ n, PollHolds cfg ledger s.chain s.data
      ⟨cursor, .fetching n, intact, quiet⟩ :=
    fun n => h.goOn h.relied (fun _ => rfl) trivial
  unfold fetchLogs at hrun ⊢
  dsimp only at hrun ⊢
  cases hlogs : (s.source tags).transferLogs
      ⟨cfg.chainId, cfg.tokenAddress, cursor.nextBlock, toBlock, none⟩ with
  | error e =>
    rw [hlogs] at hrun
    dsimp only at hrun ⊢
    split
    · exact hagain _
    · rename_i hreduce
      rw [if_neg hreduce] at hrun
      cases hrun
  | ok logs =>
    rw [hlogs] at hrun
    dsimp only at hrun ⊢
    obtain ⟨hle, hanswer⟩ := LogStoreState.transferLogs_of_source hlogs
    by_cases hfits : isWithinLimits cfg logs = true
    · rw [if_pos hfits]
      obtain ⟨headers, missing, hpc, hread, hexact⟩ := hk.batch hle hanswer
      rw [hpc]
      refine h.goOn (fun hi => (h.relied hi).mono ?_) (by simp [PollPc.beforeLogs])
        ⟨hread, fun _ => hexact⟩
      show min (toBlock + 1) cursor.nextBlock ≤ min cursor.nextBlock cursor.nextBlock
      omega
    · rw [if_neg hfits] at hrun ⊢
      split
      · rename_i hone
        rw [if_pos hone] at hrun
        cases hrun
      · exact hagain _

/-- A header of the batch is read. -/
theorem PollHolds.gathered {toBlock number : ℕ} {logs : List TransferLog}
    {headers : List (ℕ × ScannedHeader)} {missing : List ℕ} (hk : ledger.Knows s.chain)
    (h : PollHolds cfg ledger s.chain s.data
      ⟨cursor, .gathering toBlock logs headers (number :: missing), intact, quiet⟩)
    (hrun : Poll.running ⟨cursor, gatherHeader (s.source tags) toBlock logs headers number missing,
      intact, quiet⟩ = true) :
    PollHolds cfg ledger s.chain s.data
      ⟨cursor, gatherHeader (s.source tags) toBlock logs headers number missing, intact, quiet⟩ := by
  obtain ⟨hread, hexact⟩ := h.place
  unfold gatherHeader at hrun ⊢
  cases hb : (s.source tags).blockByNumber number with
  | error e =>
    rw [hb] at hrun
    cases hrun
  | ok block =>
    have hblock := LogStoreState.blockByNumber_of_source hb
    have hlength := CanonicalChain.lt_length_of_blockByNumber hblock
    have hnumbers := hk.numbers
    obtain ⟨hfrom, hto, hnew⟩ := hread.missingRange number List.mem_cons_self
    obtain ⟨hnotin, honce⟩ := List.nodup_cons.mp hread.missingOnce
    have hmem : ∀ e, e ∈ upsertBy Prod.fst (number, block.header) headers
        ↔ e = (number, block.header) ∨ (e ∈ headers ∧ e.1 ≠ number) :=
      fun e => mem_upsertBy hread.numbers
    refine h.goOn h.relied (by simp [PollPc.beforeLogs]) ⟨⟨hread.order, hread.tokens, hread.logRange,
      nodup_map_upsertBy _ hread.numbers, ?_, ?_, honce, ?_, ?_⟩, fun hi => ⟨(hexact hi).logs, ?_⟩⟩
    · intro e he
      rcases (hmem e).mp he with rfl | ⟨he, -⟩
      · exact ⟨CanonicalChain.number_of_blockByNumber hblock, hfrom, hto, by dsimp only; omega⟩
      · exact hread.headerRange e he
    · intro log hlog
      have hlogHeader := hread.logHeader log hlog
      refine (hmem _).mpr (Or.inr ⟨hlogHeader, fun heq => hnew ?_⟩)
      exact heq ▸ List.mem_map_of_mem hlogHeader
    · intro n hn
      obtain ⟨hnfrom, hnto, hnout⟩ := hread.missingRange n (List.mem_cons_of_mem number hn)
      refine ⟨hnfrom, hnto, fun hin => ?_⟩
      rcases mem_map_upsertBy.mp hin with rfl | hin
      · exact hnotin hn
      · exact hnout hin
    · rcases hread.last with hlast | hlast
      · exact Or.inl (mem_map_upsertBy.mpr (Or.inr hlast))
      · rcases List.mem_cons.mp hlast with rfl | hlast
        · exact Or.inl (mem_map_upsertBy.mpr (Or.inl rfl))
        · exact Or.inr hlast
    · intro e he n hstart hn
      rcases (hmem e).mp he with rfl | ⟨he, -⟩
      · exact ⟨hk.transfersAt_history hblock hn, by dsimp only at hn; omega⟩
      · exact (hexact hi).headers e he n hstart hn

end Steps

/-! ## Runs -/

namespace LogStoreState

variable {cfg : TransferLogStreamConfig} {ledger : HashLedger} {s t : LogStoreState}
  {a : LogStoreAction}

/-- **What every state of a followed run has.** -/
structure Inv (cfg : TransferLogStreamConfig) (ledger : HashLedger) (s : LogStoreState) : Prop where
  known : ledger.Knows s.chain
  stream : StreamInv cfg ledger s.chain s.data
  polls : ∀ p ∈ s.polls, PollInv cfg ledger s.chain s.data p

theorem Inv.initial {chain : CanonicalChain} (hk : ledger.Knows chain) (now : Timestamp) :
    (LogStoreState.initial cfg chain now).Inv cfg ledger :=
  ⟨hk, .initial now, fun _ hp => absurd hp List.not_mem_nil⟩

/-- The polls after a step of one of them. -/
theorem Inv.afterPoll {i : ℕ} {p : Poll} {data' : StreamData} {pc' : PollPc}
    (hknown : ledger.Knows s.chain) (hstream : StreamInv cfg ledger s.chain data')
    (hothers : ∀ q ∈ s.polls, PollInv cfg ledger s.chain data' q)
    (hself : PollInv cfg ledger s.chain data' { p with pc := pc' }) :
    (s.afterPoll i p (data', pc')).Inv cfg ledger := by
  refine ⟨hknown, hstream, fun q hq => ?_⟩
  rcases List.mem_or_eq_of_mem_set hq with hq | rfl
  · exact hothers q hq
  · exact hself

/-- A rewind raises the epoch as long as its field has room. -/
theorem reorgEpoch_applyRewind {data : StreamData} (hroom : data.cursor.reorgEpoch < u64Max)
    (f : ℕ) (now : Timestamp) :
    data.cursor.reorgEpoch < (data.applyRewind f now).cursor.reorgEpoch := by
  show _ < min (data.cursor.reorgEpoch + 1) u64Max
  omega

/-- **A poll that reads or compares** leaves the stream and goes where it knows enough. -/
theorem Inv.reads (h : s.Inv cfg ledger) {i : ℕ} {p : Poll} {pc' : PollPc} (hp : p ∈ s.polls)
    (hrun : p.running = true)
    (hnext : PollHolds cfg ledger s.chain s.data p →
      Poll.running { p with pc := pc' } = true →
        PollHolds cfg ledger s.chain s.data { p with pc := pc' }) :
    (s.afterPoll i p (s.data, pc')).Inv cfg ledger := by
  have hold := h.polls p hp
  refine Inv.afterPoll h.known h.stream h.polls ⟨hold.epoch_le, fun hrun' hepoch => ?_⟩
  exact hnext (hold.holds hrun hepoch) hrun'

/-- **One step of a poll keeps it all.** -/
theorem Inv.polled (h : s.Inv cfg ledger) {i : ℕ} {p : Poll} (hp : s.polls[i]? = some p)
    (hrun : p.running = true) (hfollowed : s.PollFollowed p p.pc)
    (tags : Except RpcChainError (ℕ × ℕ)) (now : Timestamp) :
    (s.afterPoll i p (pollStep cfg (s.source tags) now p.cursor s.data p.pc)).Inv cfg ledger := by
  have hmem : p ∈ s.polls := List.mem_of_getElem? hp
  have hold := h.polls p hmem
  obtain ⟨cursor, pc, intact, quiet⟩ := p
  cases pc with
  | started => exact h.reads hmem hrun (fun hh hr => hh.detected h.stream h.known hr)
  | walking last number => exact h.reads hmem hrun (fun hh hr => hh.asked h.stream h.known hr)
  | comparing last number current => exact h.reads hmem hrun (fun hh _ => hh.compared)
  | checked => exact h.reads hmem hrun (fun hh hr => hh.targeted hr)
  | fetching toBlock => exact h.reads hmem hrun (fun hh hr => hh.fetched h.known hr)
  | returned result => cases hrun
  | rewinding f =>
    obtain ⟨hepoch, hintact, hroom⟩ := hfollowed
    have hholds := hold.holds hrun hepoch
    obtain ⟨hstart, hle⟩ := hholds.place
    have hheld : Held cfg s.data s.chain f :=
      (hholds.relied hintact).mono (le_min (le_refl f) hle)
    have hraised := reorgEpoch_applyRewind hroom f now
    refine Inv.afterPoll h.known (h.stream.applyRewind hstart hheld now)
      (fun q hq => (h.polls q hq).rewound hraised) (PollInv.returned ?_ rfl)
    exact hold.epoch_le.trans (le_of_lt hraised)
  | gathering toBlock logs headers missing =>
    cases missing with
    | cons number missing => exact h.reads hmem hrun (fun hh hr => hh.gathered h.known hr)
    | nil =>
      obtain ⟨hepoch, hnext, hintact⟩ := hfollowed
      have hholds := hold.holds hrun hepoch
      obtain ⟨hread, hexact⟩ := hholds.place
      have hheld : Held cfg s.data s.chain cursor.nextBlock := by
        refine (hholds.relied hintact).mono (le_min ?_ (le_refl _))
        exact hread.order.trans (Nat.le_succ toBlock)
      dsimp only at hnext hread hexact
      have hwrite := hexact hintact
      rw [hnext] at hread hwrite hheld
      have hadv := h.stream.advanced_write hread now
      show (s.afterPoll i _ ((s.data.write cfg cursor.nextBlock toBlock logs
        (headers.map Prod.snd) now).1, _)).Inv cfg ledger
      rw [hnext]
      refine Inv.afterPoll h.known (h.stream.write hread hheld hwrite now)
        (fun q hq => (h.polls q hq).advanced hadv) (PollInv.returned ?_ rfl)
      exact hadv.epoch.symm ▸ hold.epoch_le

/-- What is stored below the next block is canonical while no reorganisation waits. -/
theorem Inv.held_of_upToDate (h : s.Inv cfg ledger) (hup : s.UpToDate) :
    Held cfg s.data s.chain s.data.cursor.nextBlock := by
  obtain ⟨hsome, hcanonical⟩ := hup
  obtain ⟨hash, hhash⟩ := Option.ne_none_iff_exists'.mp hsome
  rw [hhash] at hcanonical
  obtain ⟨last, hlast, hcanonical⟩ := Option.bind_eq_some_iff.mp hcanonical
  obtain ⟨b, hb, rfl⟩ := Option.map_eq_some_iff.mp hcanonical
  obtain ⟨-, hnext, hexact⟩ := h.stream.last_exact last b.hash hlast hhash
  rw [hnext]
  exact h.known.held_of_history hb hexact

/-- **One followed step keeps it all.** -/
theorem Inv.step (h : s.Inv cfg ledger) (hfollowed : s.Followed cfg a)
    (hst : LogStoreState.step cfg ledger s a = some t) : t.Inv cfg ledger := by
  cases a with
  | newChain chain =>
    obtain ⟨hknown, hst⟩ := Option.ite_none_right_eq_some.mp hst
    obtain rfl := Option.some.inj hst
    refine ⟨hknown, h.stream.newChain hfollowed, fun p hp => ?_⟩
    obtain ⟨q, hq, rfl⟩ := List.mem_map.mp hp
    have hold := h.polls q hq
    exact ⟨hold.epoch_le, fun hrun hepoch => (hold.holds hrun hepoch).newChain⟩
  | pollOnce =>
    obtain rfl := Option.some.inj hst
    refine ⟨h.known, h.stream, fun p hp => ?_⟩
    rcases List.mem_append.mp hp with hp | hp
    · exact h.polls p hp
    · rw [List.mem_singleton.mp hp]
      exact h.stream.pollInv
  | poll i tags now =>
    unfold LogStoreState.step at hst
    dsimp only at hst
    cases hp : s.polls[i]? with
    | none =>
      rw [hp] at hst
      cases hst
    | some p =>
      rw [hp] at hst
      obtain ⟨hrun, hst⟩ := Option.ite_none_right_eq_some.mp hst
      obtain rfl := Option.some.inj hst
      exact h.polled hp hrun (hfollowed p hp) tags now
  | rewindTo block now =>
    obtain rfl := Option.some.inj hst
    obtain ⟨hroom, hwhere⟩ := hfollowed
    have hheld : Held cfg s.data s.chain (max block cfg.startBlock) := by
      rcases hwhere with hle | ⟨hle, hup⟩
      · exact h.stream.held.mono hle
      · exact (h.held_of_upToDate hup).mono hle
    have hraised := reorgEpoch_applyRewind hroom (max block cfg.startBlock) now
    exact ⟨h.known, h.stream.applyRewind (le_max_right _ _) hheld now,
      fun p hp => (h.polls p hp).rewound hraised⟩

/-- **What a poll may promise when it returns.** `Idle` with no reorganisation since it
began: what is stored below the cursor it returns is exactly what the canonical chain
has there. `Rewound`: the same of the cursor after the rewind. -/
def Promised (cfg : TransferLogStreamConfig) (s : LogStoreState) (p : Poll) : Prop :=
  match p.pc with
  | .returned (.ok (.idle cursor)) =>
    p.quiet = true → ExactBelow cfg s.data s.chain cursor.nextBlock
  | .returned (.ok (.rewound _ _ cursor)) => ExactBelow cfg s.data s.chain cursor.nextBlock
  | _ => True

/-- A place that promises nothing. -/
def PromisesNothing : PollPc → Prop
  | .returned (.ok (.idle _)) => False
  | .returned (.ok (.rewound _ _ _)) => False
  | _ => True

theorem promised_of_promisesNothing {p : Poll} (h : PromisesNothing p.pc) : s.Promised cfg p := by
  unfold Promised
  split
  · rename_i hpc
    rw [hpc] at h
    exact h.elim
  · rename_i hpc
    rw [hpc] at h
    exact h.elim
  · trivial

theorem promisesNothing_detectReorg (source : LogStoreSource) (cursor : TransferLogCursor) :
    PromisesNothing (detectReorg cfg source cursor) := by
  unfold detectReorg
  split
  · split
    · trivial
    · split
      · trivial
      · split <;> trivial
  · trivial

theorem promisesNothing_askHeader (source : LogStoreSource) (last number : ℕ) :
    PromisesNothing (askHeader source last number) := by
  unfold askHeader
  split <;> trivial

theorem promisesNothing_compareHeader (data : StreamData) (last number : ℕ) (current : BlockHash) :
    PromisesNothing (compareHeader data last number current) := by
  unfold compareHeader
  split
  · trivial
  · split <;> trivial

theorem promisesNothing_fetchLogs (source : LogStoreSource) (cursor : TransferLogCursor)
    (toBlock : ℕ) : PromisesNothing (fetchLogs cfg source cursor toBlock) := by
  unfold fetchLogs
  dsimp only
  split
  · split <;> trivial
  · split
    · trivial
    · split <;> trivial

theorem promisesNothing_gatherHeader (source : LogStoreSource) (toBlock number : ℕ)
    (logs : List TransferLog) (headers : List (ℕ × ScannedHeader)) (missing : List ℕ) :
    PromisesNothing (gatherHeader source toBlock logs headers number missing) := by
  unfold gatherHeader
  split <;> trivial

/-- **A poll that returns keeps its promise.** -/
theorem Inv.promised (h : s.Inv cfg ledger) {i : ℕ} {p : Poll} (hp : s.polls[i]? = some p)
    (hrun : p.running = true) (hfollowed : s.PollFollowed p p.pc)
    (tags : Except RpcChainError (ℕ × ℕ)) (now : Timestamp) :
    (s.afterPoll i p (pollStep cfg (s.source tags) now p.cursor s.data p.pc)).Promised cfg
      { p with pc := (pollStep cfg (s.source tags) now p.cursor s.data p.pc).2 } := by
  have hold := h.polls p (List.mem_of_getElem? hp)
  obtain ⟨cursor, pc, intact, quiet⟩ := p
  cases pc with
  | started => exact promised_of_promisesNothing (promisesNothing_detectReorg _ _)
  | walking last number => exact promised_of_promisesNothing (promisesNothing_askHeader _ _ _)
  | comparing last number current =>
    exact promised_of_promisesNothing (promisesNothing_compareHeader _ _ _ _)
  | fetching toBlock => exact promised_of_promisesNothing (promisesNothing_fetchLogs _ _ _)
  | gathering toBlock logs headers missing =>
    cases missing with
    | cons number missing =>
      exact promised_of_promisesNothing (promisesNothing_gatherHeader _ _ _ _ _ _)
    | nil => exact promised_of_promisesNothing trivial
  | returned result => cases hrun
  | rewinding f =>
    obtain ⟨hepoch, hintact, -⟩ := hfollowed
    have hholds := hold.holds hrun hepoch
    intro n hstart hn log
    replace hn : n < f := hn
    show log ∈ (s.data.applyRewind f now).transfersAt n ↔ _
    rw [StreamData.transfersAt_applyRewind hn]
    exact (hholds.relied hintact n hstart (lt_min hn (lt_of_lt_of_le hn hholds.place.2))).1 log
  | checked =>
    have hholds := hold.holds hrun hfollowed
    show Promised cfg (s.afterPoll i _ (s.data, checkTarget cfg (s.source tags) cursor))
      ⟨cursor, checkTarget cfg (s.source tags) cursor, intact, quiet⟩
    unfold checkTarget
    split
    · trivial
    · split
      · intro hquiet n hstart hn
        have hintact := hholds.steady rfl hquiet
        exact (hholds.relied hintact n hstart (lt_min hn hn)).1
      · trivial

/-- **The store follows the chain.** In every run whose steps are followed, a poll that
returns `Idle`, with no reorganisation since it began, leaves what is stored below its
cursor exactly as the canonical chain has it; and so does one that rewinds. -/
theorem returned_polls_follow_chain {chain : CanonicalChain} {now now' : Timestamp}
    {actions : List LogStoreAction} {i : ℕ} {tags : Except RpcChainError (ℕ × ℕ)} {p : Poll}
    (hknown : ledger.Knows chain)
    (hfollowed : StepsMeet (LogStoreState.step cfg ledger) (Followed cfg)
      (LogStoreState.initial cfg chain now) (actions ++ [.poll i tags now']))
    (hrun : runSteps (LogStoreState.step cfg ledger) (LogStoreState.initial cfg chain now)
      (actions ++ [.poll i tags now']) = some t)
    (hp : t.polls[i]? = some p) : t.Promised cfg p := by
  rw [runSteps_append] at hrun
  obtain ⟨s, hs, hlast⟩ := Option.bind_eq_some_iff.mp hrun
  obtain ⟨u, hstep, hu⟩ := runSteps_cons_eq_some.mp hlast
  obtain rfl := Option.some.inj hu
  have hinv : s.Inv cfg ledger :=
    inv_of_run (fun _ _ _ hI hP hst => Inv.step hI hP hst) (Inv.initial hknown now)
      (stepsMeet_left hfollowed) hs
  have hmeets := ((stepsMeet_cons hstep).mp (stepsMeet_of_append hfollowed hs)).1
  unfold LogStoreState.step at hstep
  dsimp only at hstep
  cases hq : s.polls[i]? with
  | none =>
    rw [hq] at hstep
    cases hstep
  | some q =>
    rw [hq] at hstep
    obtain ⟨hrunning, hstep⟩ := Option.ite_none_right_eq_some.mp hstep
    obtain rfl := Option.some.inj hstep
    have hset : (s.polls.set i { q with
        pc := (pollStep cfg (s.source tags) now' q.cursor s.data q.pc).2 })[i]? = some p := hp
    rw [List.getElem?_set_self (List.getElem?_eq_some_iff.mp hq).1] at hset
    obtain rfl := Option.some.inj hset
    exact hinv.promised hq hrunning (hmeets q hq) tags now'

end LogStoreState

/-! ## A reorganisation that is too deep -/

namespace SmallStore

/-- A transfer of the token of the stream. -/
def deposit (amount : ℕ) : Transfer := ⟨0x70, 0x01, 0, 0x0a, 0x0b, BitVec.ofNat 256 amount⟩

/-- A block without receipts. -/
def block (number hash : ℕ) (transfers : List Transfer) : ChainBlock :=
  ⟨number, BitVec.ofNat 256 hash, 0, [], transfers⟩

/-- Block 1 has a deposit. -/
def oldChain : CanonicalChain where
  blocks := [block 0 0xa0 [], block 1 0xa1 [deposit 5], block 2 0xa2 []]
  nonempty := by decide
  numbered := by decide
  mined_once := by decide
  logged_once := by decide

/-- The same with another deposit: both blocks above the first are replaced. -/
def newChain : CanonicalChain where
  blocks := [block 0 0xa0 [], block 1 0xb1 [deposit 6], block 2 0xb2 []]
  nonempty := by decide
  numbered := by decide
  mined_once := by decide
  logged_once := by decide

/-- What the hashes of the two chains commit to. -/
def ledger : HashLedger where
  history := fun hash =>
    if hash = 0xa0 then oldChain.blocks.take 1
    else if hash = 0xa1 then oldChain.blocks.take 2
    else if hash = 0xa2 then oldChain.blocks
    else if hash = 0xb1 then newChain.blocks.take 2
    else newChain.blocks

/-- A stream from block 1, up to the head, with the given number of blocks looked back. -/
def stream (lookback : ℕ) : TransferLogStreamConfig :=
  ⟨1, 0x70, 1, 10, 10, 10, lookback, .latestMinusConfirmations 0, false⟩

/-- A poll begins and takes a number of steps. -/
def polling (i steps : ℕ) : List LogStoreAction :=
  .pollOnce :: List.replicate steps (.poll i (.ok (0, 0)) 0)

/-- The blocks are scanned, replaced, rewound, scanned again, and polled once more, up to
the answer of the last poll. -/
def reorgRun : List LogStoreAction :=
  polling 0 5 ++ [.newChain newChain] ++ polling 1 4 ++ polling 2 5 ++ polling 3 1

/-- The cursor of the last poll, with the block of the rewind. -/
def lastCursor (lookback rewoundTo : ℕ) : TransferLogCursor :=
  { TransferLogCursor.initial (stream lookback) 1 0 with
    nextBlock := 3
    lastCompletedBlock := some 2
    lastCompletedHash := some 0xb2
    reorgEpoch := 1
    lastReorgFrom := some rewoundTo
    lastReorgAt := some 0 }

/-- The state the run ends in. -/
def afterRun (lookback : ℕ) : Option LogStoreState :=
  runSteps (LogStoreState.step (stream lookback) ledger)
    (LogStoreState.initial (stream lookback) oldChain 0) (reorgRun ++ [.poll 3 (.ok (0, 0)) 0])

end SmallStore

open SmallStore in
/-- With two blocks looked back the reorganisation is detected and healed. -/
theorem returned_polls_follow_chain_healed :
    ∃ t p, afterRun 2 = some t ∧ t.polls[3]? = some p
      ∧ p.pc = .returned (.ok (.idle (lastCursor 2 1))) ∧ p.quiet = true
      ∧ ExactBelow (stream 2) t.data t.chain 3 := by
  have hend : (afterRun 2).bind (fun t => (t.polls[3]?).map (fun p => (p.pc, p.quiet)))
      = some (.returned (.ok (.idle (lastCursor 2 1))), true) := by decide +kernel
  obtain ⟨t, ht, hpoll⟩ := Option.bind_eq_some_iff.mp hend
  obtain ⟨p, hp, hpc⟩ := Option.map_eq_some_iff.mp hpoll
  obtain ⟨hpc, hquiet⟩ := Prod.mk.inj hpc
  have hpromised : t.Promised (stream 2) p :=
    LogStoreState.returned_polls_follow_chain (by decide +kernel) (by decide +kernel) ht hp
  refine ⟨t, p, ht, hp, hpc, hquiet, ?_⟩
  unfold LogStoreState.Promised at hpromised
  rw [hpc] at hpromised
  exact hpromised hquiet

open SmallStore in
/-- **With one block looked back it is not**: the poll answers `Idle` with no
reorganisation since it began, and the deposit of the old chain is still stored. -/
theorem deep_reorg_goes_idle :
    ∃ t p, afterRun 1 = some t ∧ t.polls[3]? = some p
      ∧ p.pc = .returned (.ok (.idle (lastCursor 1 2))) ∧ p.quiet = true
      ∧ ¬ ExactBelow (stream 1) t.data t.chain 3 := by
  have hend : (afterRun 1).map (fun t =>
      ((t.polls[3]?).map (fun p => (p.pc, p.quiet)), t.data.transfersAt 1,
        transfersAt (stream 1) t.chain.blocks 1))
      = some (some (.returned (.ok (.idle (lastCursor 1 2))), true),
        [⟨⟨deposit 5, 1, 0xa1⟩, 1, 0⟩], [⟨⟨deposit 6, 1, 0xb1⟩, 1, 0⟩]) := by decide +kernel
  obtain ⟨t, ht, hend⟩ := Option.map_eq_some_iff.mp hend
  obtain ⟨hpoll, hends⟩ := Prod.mk.inj hend
  obtain ⟨hstored, hcanonical⟩ := Prod.mk.inj hends
  obtain ⟨p, hp, hpc⟩ := Option.map_eq_some_iff.mp hpoll
  obtain ⟨hpc, hquiet⟩ := Prod.mk.inj hpc
  refine ⟨t, p, ht, hp, hpc, hquiet, fun hexact => ?_⟩
  have hsame := hexact 1 (le_refl 1) (by decide) ⟨⟨deposit 5, 1, 0xa1⟩, 1, 0⟩
  rw [hstored, hcanonical] at hsame
  revert hsame
  decide +kernel
