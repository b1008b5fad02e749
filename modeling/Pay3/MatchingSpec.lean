import Pay3.MatcherAgreement

/-!
# What the matcher matches

`match_transfer_logs` groups the candidates by address and takes the logs one by
one. A log has candidates in its stream for its recipient; those whose monitoring
window it is in come first, and what it is matched to has to be the only one, of
these or, if there are none, of all. Anything else is passed over without a word.

So what a log is matched to depends on how many candidates there are and not on
their order, and candidates of other streams or addresses make no difference.
-/

/-- The candidate is for an address on a stream. -/
def PaymentWindowCandidate.isFor (stream : StreamId) (address : EvmAddress)
    (c : PaymentWindowCandidate) : Bool :=
  decide (c.chainId = stream.chainId) && decide (c.tokenAddress = stream.tokenAddress) &&
    decide (c.receiveAddress = address)

/-- The log is of the stream. -/
def TransferLog.isOf (log : TransferLog) (stream : StreamId) : Bool :=
  decide (log.chainId = stream.chainId) && decide (log.tokenAddress = stream.tokenAddress)

/-- **The candidate is the only one for the log**: the only one for its recipient that the
log is in the window of, or, when it is in no window, the only one for its recipient. -/
def IsOnlyCandidate (stream : StreamId) (candidates : List PaymentWindowCandidate)
    (log : TransferLog) (c : PaymentWindowCandidate) : Prop :=
  c ∈ candidates ∧ c.isFor stream log.toAddress = true
    ∧ ((candidateIsWithinMonitorWindow log c = true
        ∧ candidates.countP (fun c => c.isFor stream log.toAddress
          && candidateIsWithinMonitorWindow log c) = 1)
      ∨ (candidates.countP (fun c => c.isFor stream log.toAddress
          && candidateIsWithinMonitorWindow log c) = 0
        ∧ candidates.countP (fun c => c.isFor stream log.toAddress) = 1))

section Loop

variable (stream : StreamId) (minConfirmations : ℕ)
  (byAddress : List (EvmAddress × List PaymentWindowCandidate)) (head : ChainBlockRef)
  (newId : ℕ → Uuid)

/-- One turn of the loop of `match_transfer_logs`. -/
def matchTransferLog (matched : List MatchedPaymentInput) (log : TransferLog) :
    List MatchedPaymentInput :=
  match candidatesAt byAddress log.toAddress with
  | none => matched
  | some addressCandidates =>
    let matching := candidatesForTransferLog stream log addressCandidates
    if matching.isEmpty then matched
    else match selectCandidate log matching with
      | some c =>
        matched ++ [matchedPaymentInput (newId matched.length) log c head minConfirmations]
      | none => matched

end Loop

/-- **`match_transfer_logs`**, with its map by address and its loop. -/
def matchTransferLogsInOrder (stream : StreamId) (minConfirmations : ℕ) (logs : List TransferLog)
    (candidates : List PaymentWindowCandidate) (head : ChainBlockRef) (newId : ℕ → Uuid) :
    List MatchedPaymentInput :=
  logs.foldl (matchTransferLog stream minConfirmations (groupCandidatesByAddress candidates) head
    newId) []

/-! ## The candidate of a log -/

section Select

variable {stream : StreamId} {candidates candidates' : List PaymentWindowCandidate}
  {log : TransferLog} {c : PaymentWindowCandidate}

/-- A list that selects one element is that element. -/
theorem filter_eq_singleton {α : Type} {p : α → Bool} {l : List α} {a : α} :
    l.filter p = [a] ↔ a ∈ l ∧ p a = true ∧ l.countP p = 1 := by
  rw [List.countP_eq_length_filter]
  constructor
  · intro h
    have hmem : a ∈ l.filter p := h ▸ List.mem_singleton_self a
    obtain ⟨hin, hp⟩ := List.mem_filter.mp hmem
    exact ⟨hin, hp, by rw [h]; rfl⟩
  · rintro ⟨hin, hp, hlength⟩
    obtain ⟨b, hb⟩ := List.length_eq_one_iff.mp hlength
    have hmem : a ∈ l.filter p := List.mem_filter.mpr ⟨hin, hp⟩
    rw [hb, List.mem_singleton] at hmem
    rw [hb, hmem]

/-- **What is selected**, by numbers of candidates. -/
theorem selectCandidate_eq_some {matching : List PaymentWindowCandidate} :
    selectCandidate log matching = some c ↔ c ∈ matching
      ∧ ((candidateIsWithinMonitorWindow log c = true
          ∧ matching.countP (candidateIsWithinMonitorWindow log) = 1)
        ∨ (matching.countP (candidateIsWithinMonitorWindow log) = 0 ∧ matching.length = 1)) := by
  unfold selectCandidate
  rw [List.countP_eq_length_filter]
  cases hwithin : matching.filter (candidateIsWithinMonitorWindow log) with
  | nil =>
    have hnot : ∀ c ∈ matching, candidateIsWithinMonitorWindow log c = false := by
      intro c hc
      exact Bool.eq_false_iff.mpr (List.filter_eq_nil_iff.mp hwithin c hc)
    match matching with
    | [] => simp
    | [d] =>
      rw [List.mem_singleton]
      constructor
      · intro h
        obtain rfl := Option.some.inj h
        exact ⟨rfl, Or.inr ⟨rfl, rfl⟩⟩
      · rintro ⟨rfl, -⟩
        rfl
    | d :: e :: rest => simp
  | cons d rest =>
    cases rest with
    | nil =>
      obtain ⟨hin, hp, -⟩ := filter_eq_singleton.mp hwithin
      constructor
      · intro h
        obtain rfl := Option.some.inj h
        exact ⟨hin, Or.inl ⟨hp, rfl⟩⟩
      · rintro ⟨hc, ⟨hc', -⟩ | ⟨h, -⟩⟩
        · have hmem : c ∈ matching.filter (candidateIsWithinMonitorWindow log) :=
            List.mem_filter.mpr ⟨hc, hc'⟩
          rw [hwithin, List.mem_singleton] at hmem
          rw [hmem]
        · cases h
    | cons e rest => simp

/-- The candidates for a log of the stream are those for its recipient. -/
theorem candidatesForTransferLog_eq (hlog : log.isOf stream = true) :
    candidatesForTransferLog stream log candidates
      = candidates.filter (PaymentWindowCandidate.isFor stream log.toAddress) := by
  unfold TransferLog.isOf at hlog
  obtain ⟨hchain, htoken⟩ := Bool.and_eq_true_iff.mp hlog
  unfold candidatesForTransferLog PaymentWindowCandidate.isFor
  refine List.filter_congr (fun c _ => ?_)
  rw [hchain, htoken, Bool.and_true, Bool.and_true]

/-- A log of another stream has none. -/
theorem candidatesForTransferLog_eq_nil (hlog : log.isOf stream = false) :
    candidatesForTransferLog stream log candidates = [] := by
  unfold candidatesForTransferLog
  rw [List.filter_eq_nil_iff]
  intro c _ hc
  simp only [Bool.and_eq_true] at hc
  unfold TransferLog.isOf at hlog
  rw [hc.1.2, hc.2] at hlog
  cases hlog

/-- **A log is matched to its only candidate.** -/
theorem selectCandidate_iff_isOnlyCandidate (hlog : log.isOf stream = true) :
    selectCandidate log (candidatesForTransferLog stream log candidates) = some c
      ↔ IsOnlyCandidate stream candidates log c := by
  rw [candidatesForTransferLog_eq hlog, selectCandidate_eq_some, List.mem_filter,
    List.countP_filter, ← List.countP_eq_length_filter, and_assoc]
  unfold IsOnlyCandidate
  simp only [Bool.and_comm]

end Select

/-! ## The loop -/

section InOrder

variable {stream : StreamId} {minConfirmations : ℕ} {candidates candidates' : List PaymentWindowCandidate}
  {head : ChainBlockRef} {newId : ℕ → Uuid} {log : TransferLog} {c : PaymentWindowCandidate}

/-- The log with the candidate it is matched to. -/
def pairWithCandidate (stream : StreamId) (candidates : List PaymentWindowCandidate)
    (log : TransferLog) : Option (TransferLog × PaymentWindowCandidate) :=
  (selectCandidate log (candidatesForTransferLog stream log candidates)).map (fun c => (log, c))

/-- The payment of a log and its candidate, under an id. -/
def payMatched (minConfirmations : ℕ) (head : ChainBlockRef) (newId : ℕ → Uuid)
    (entry : (TransferLog × PaymentWindowCandidate) × ℕ) : MatchedPaymentInput :=
  matchedPaymentInput (newId entry.2) entry.1.1 entry.1.2 head minConfirmations

/-- **What a log is paired with.** -/
theorem pairWithCandidate_eq_some {pair : TransferLog × PaymentWindowCandidate} :
    pairWithCandidate stream candidates log = some pair
      ↔ pair.1 = log ∧ log.isOf stream = true ∧ IsOnlyCandidate stream candidates log pair.2 := by
  unfold pairWithCandidate
  rw [Option.map_eq_some_iff]
  cases hlog : log.isOf stream with
  | false =>
    rw [candidatesForTransferLog_eq_nil hlog]
    constructor
    · rintro ⟨c, hc, -⟩
      cases hc
    · rintro ⟨-, h, -⟩
      cases h
  | true =>
    constructor
    · rintro ⟨c, hc, rfl⟩
      exact ⟨rfl, rfl, (selectCandidate_iff_isOnlyCandidate hlog).mp hc⟩
    · rintro ⟨rfl, -, honly⟩
      exact ⟨pair.2, (selectCandidate_iff_isOnlyCandidate hlog).mpr honly, rfl⟩

/-- Filtering by the address first leaves the candidates of a log. -/
theorem candidatesForTransferLog_at (log : TransferLog) :
    candidatesForTransferLog stream log
        ((candidatesAt (groupCandidatesByAddress candidates) log.toAddress).getD [])
      = candidatesForTransferLog stream log candidates :=
  candidatesForLog_group log 0 candidates

/-- **One turn of the loop** adds the payment of the log, if it has a candidate. -/
theorem matchTransferLog_eq (matched : List MatchedPaymentInput) (log : TransferLog) :
    matchTransferLog stream minConfirmations (groupCandidatesByAddress candidates) head newId
        matched log
      = matched ++ ((pairWithCandidate stream candidates log).toList.zipIdx matched.length).map
          (payMatched minConfirmations head newId) := by
  have hmatching := @candidatesForTransferLog_at stream candidates log
  unfold matchTransferLog pairWithCandidate
  cases hat : candidatesAt (groupCandidatesByAddress candidates) log.toAddress with
  | none =>
    rw [hat, Option.getD_none] at hmatching
    rw [← hmatching]
    simp [candidatesForTransferLog, selectCandidate]
  | some addressCandidates =>
    rw [hat, Option.getD_some] at hmatching
    dsimp only
    rw [hmatching]
    cases hsel : selectCandidate log (candidatesForTransferLog stream log candidates) with
    | none => simp
    | some c =>
      have hmem := mem_of_selectCandidate hsel
      rw [if_neg (by simpa using List.ne_nil_of_mem hmem)]
      rfl

/-- **The result of the loop**: one payment for each log that has a candidate, in the order
of the logs. -/
theorem matchTransferLogsInOrder_eq (logs : List TransferLog) :
    matchTransferLogsInOrder stream minConfirmations logs candidates head newId
      = (logs.filterMap (pairWithCandidate stream candidates)).zipIdx.map
          (payMatched minConfirmations head newId) := by
  have hloop : ∀ (logs : List TransferLog) (matched : List MatchedPaymentInput),
      logs.foldl (matchTransferLog stream minConfirmations (groupCandidatesByAddress candidates)
          head newId) matched
        = matched ++ ((logs.filterMap (pairWithCandidate stream candidates)).zipIdx
            matched.length).map (payMatched minConfirmations head newId) := by
    intro logs
    induction logs with
    | nil => simp
    | cons log logs ih =>
      intro matched
      rw [List.foldl_cons, ih, matchTransferLog_eq, List.filterMap_cons]
      cases pairWithCandidate stream candidates log with
      | none => simp
      | some pair =>
        rw [List.append_assoc, Option.toList_some, List.zipIdx_cons]
        simp
  exact hloop logs []

/-- The loop and the matcher by logs alone give the same payments, up to ids. -/
theorem anonymous_matchTransferLogsInOrder (logs : List TransferLog) (newId' : ℕ → Uuid) :
    (matchTransferLogsInOrder stream minConfirmations logs candidates head newId).map
        PaymentRecord.anonymous
      = (matchTransferLogs stream minConfirmations logs candidates head newId').map
        PaymentRecord.anonymous := by
  rw [matchTransferLogsInOrder_eq, anonymous_matchTransferLogs, List.map_map]
  have hforget : PaymentRecord.anonymous ∘ payMatched minConfirmations head newId
      = (fun pair : TransferLog × PaymentWindowCandidate =>
          PaymentRecord.anonymous (matchedPaymentInput 0 pair.1 pair.2 head minConfirmations))
        ∘ Prod.fst := by
    funext entry
    rfl
  rw [hforget, ← List.map_map, List.zipIdx_map_fst, List.map_filterMap]
  refine List.filterMap_congr (fun log _ => ?_)
  unfold pairWithCandidate anonymousPayment
  rw [Option.map_map]
  rfl

/-! ## What the result depends on -/

/-- **Candidates count and are not ordered**: with the same candidates for the recipient the
same one is the only one. -/
theorem IsOnlyCandidate.congr
    (h : (candidates.filter (PaymentWindowCandidate.isFor stream log.toAddress)).Perm
      (candidates'.filter (PaymentWindowCandidate.isFor stream log.toAddress))) :
    IsOnlyCandidate stream candidates log c ↔ IsOnlyCandidate stream candidates' log c := by
  have hcount : ∀ p : PaymentWindowCandidate → Bool,
      candidates.countP (fun c => c.isFor stream log.toAddress && p c)
        = candidates'.countP (fun c => c.isFor stream log.toAddress && p c) := by
    intro p
    have hboth : ∀ cs : List PaymentWindowCandidate,
        (cs.filter (PaymentWindowCandidate.isFor stream log.toAddress)).countP p
          = cs.countP (fun c => c.isFor stream log.toAddress && p c) := by
      intro cs
      rw [List.countP_filter]
      simp only [Bool.and_comm]
    rw [← hboth, ← hboth]
    exact h.countP_eq p
  have hall := hcount (fun _ => true)
  simp only [Bool.and_true] at hall
  have hmem : (c ∈ candidates ∧ c.isFor stream log.toAddress = true)
      ↔ (c ∈ candidates' ∧ c.isFor stream log.toAddress = true) := by
    rw [← List.mem_filter, ← List.mem_filter]
    exact h.mem_iff
  unfold IsOnlyCandidate
  rw [← and_assoc, ← and_assoc, hmem, hcount, hall]

/-- The same candidates for every recipient give the same payments. -/
theorem matchTransferLogsInOrder_congr {logs : List TransferLog}
    (h : ∀ log ∈ logs,
      (candidates.filter (PaymentWindowCandidate.isFor stream log.toAddress)).Perm
        (candidates'.filter (PaymentWindowCandidate.isFor stream log.toAddress))) :
    matchTransferLogsInOrder stream minConfirmations logs candidates head newId
      = matchTransferLogsInOrder stream minConfirmations logs candidates' head newId := by
  rw [matchTransferLogsInOrder_eq, matchTransferLogsInOrder_eq]
  congr 2
  refine List.filterMap_congr (fun log hlog => ?_)
  refine Option.ext (fun pair => ?_)
  rw [pairWithCandidate_eq_some, pairWithCandidate_eq_some, IsOnlyCandidate.congr (h log hlog)]

/-- A candidate that is alone at its address is the only one for every log there. -/
theorem isOnlyCandidate_of_alone (hc : c ∈ candidates) (hfor : c.isFor stream log.toAddress = true)
    (halone : candidates.countP (PaymentWindowCandidate.isFor stream log.toAddress) ≤ 1) :
    IsOnlyCandidate stream candidates log c := by
  have hpos : 0 < candidates.countP (PaymentWindowCandidate.isFor stream log.toAddress) :=
    List.countP_pos_iff.mpr ⟨c, hc, hfor⟩
  have hle : candidates.countP (fun c => c.isFor stream log.toAddress
      && candidateIsWithinMonitorWindow log c)
        ≤ candidates.countP (PaymentWindowCandidate.isFor stream log.toAddress) :=
    List.countP_mono_left (fun d _ hd => (Bool.and_eq_true_iff.mp hd).1)
  refine ⟨hc, hfor, ?_⟩
  by_cases hwithin : candidateIsWithinMonitorWindow log c = true
  · have hpos' : 0 < candidates.countP (fun c => c.isFor stream log.toAddress
        && candidateIsWithinMonitorWindow log c) :=
      List.countP_pos_iff.mpr ⟨c, hc, Bool.and_eq_true_iff.mpr ⟨hfor, hwithin⟩⟩
    exact Or.inl ⟨hwithin, le_antisymm (hle.trans halone) hpos'⟩
  · refine Or.inr ⟨?_, le_antisymm halone hpos⟩
    -- the only candidate for the recipient is not within, so none is
    rw [List.countP_eq_zero]
    intro d hd hboth
    obtain ⟨hdfor, hdwithin⟩ := Bool.and_eq_true_iff.mp hboth
    have hone : candidates.countP (PaymentWindowCandidate.isFor stream log.toAddress) = 1 := by omega
    have hsingle := filter_eq_singleton.mpr ⟨hc, hfor, hone⟩
    have hmem : d ∈ candidates.filter (PaymentWindowCandidate.isFor stream log.toAddress) :=
      List.mem_filter.mpr ⟨hd, hdfor⟩
    rw [hsingle, List.mem_singleton] at hmem
    exact hwithin (hmem ▸ hdwithin)

/-- The log a payment was made from, by its own fields. -/
def PaymentRecord.sourceLog (m : MatchedPaymentInput) : TransferLog where
  tokenAddress := m.tokenAddress
  txHash := m.txHash
  logIndex := m.logIndex
  fromAddress := m.fromAddress
  toAddress := m.toAddress
  amountRaw := m.amountRaw
  blockNumber := m.blockNumber
  blockHash := m.blockHash
  chainId := m.chainId
  blockTimestamp := m.blockTime

/-- The payments come from different logs, in their order. -/
theorem sourceLog_sublist (logs : List TransferLog) :
    ((matchTransferLogsInOrder stream minConfirmations logs candidates head newId).map
      PaymentRecord.sourceLog).Sublist logs := by
  have hsource : PaymentRecord.sourceLog ∘ payMatched minConfirmations head newId
      = Prod.fst ∘ Prod.fst := by
    funext entry
    rfl
  rw [matchTransferLogsInOrder_eq, List.map_map, hsource, ← List.map_map, List.zipIdx_map_fst,
    List.map_filterMap]
  have hsame : ∀ log, (pairWithCandidate stream candidates log).map Prod.fst
      = if (pairWithCandidate stream candidates log).isSome then some log else none := by
    intro log
    cases hpair : pairWithCandidate stream candidates log with
    | none => rfl
    | some pair =>
      rw [Option.map_some, (pairWithCandidate_eq_some.mp hpair).1]
      rfl
  have hkept : logs.filterMap (fun log => (pairWithCandidate stream candidates log).map Prod.fst)
      = logs.filter (fun log => (pairWithCandidate stream candidates log).isSome) := by
    rw [← List.filterMap_eq_filter]
    exact List.filterMap_congr (fun log _ => by rw [hsame log]; simp [Option.guard])
  rw [hkept]
  exact List.filter_sublist

/-- **The matching specification.** The payments come from different logs, in their order and
with the fields of their logs; a log of the stream is matched to its only candidate and to
nothing else; only the candidates for the recipients on the stream matter, and not their
order; and where no address has two candidates on the stream, no log of the stream to the
address of one of them is dropped. -/
theorem matchTransferLogs_spec (stream : StreamId) (minConfirmations : ℕ) (logs : List TransferLog)
    (candidates : List PaymentWindowCandidate) (head : ChainBlockRef) (newId : ℕ → Uuid) :
    ((matchTransferLogsInOrder stream minConfirmations logs candidates head newId).map
        PaymentRecord.sourceLog).Sublist logs
      ∧ (∃ chosen : TransferLog → Option PaymentWindowCandidate,
        (∀ log c, chosen log = some c
          ↔ log.isOf stream = true ∧ IsOnlyCandidate stream candidates log c)
        ∧ matchTransferLogsInOrder stream minConfirmations logs candidates head newId
          = (logs.filterMap (fun log => (chosen log).map (fun c => (log, c)))).zipIdx.map
            (fun entry => matchedPaymentInput (newId entry.2) entry.1.1 entry.1.2 head
              minConfirmations))
      ∧ (∀ candidates', (∀ log ∈ logs,
          (candidates.filter (PaymentWindowCandidate.isFor stream log.toAddress)).Perm
            (candidates'.filter (PaymentWindowCandidate.isFor stream log.toAddress))) →
        matchTransferLogsInOrder stream minConfirmations logs candidates head newId
          = matchTransferLogsInOrder stream minConfirmations logs candidates' head newId)
      ∧ ((∀ address, candidates.countP (PaymentWindowCandidate.isFor stream address) ≤ 1) →
        ∀ log ∈ logs, log.isOf stream = true →
          ∀ c ∈ candidates, c.isFor stream log.toAddress = true →
            ∃ id, matchedPaymentInput id log c head minConfirmations
              ∈ matchTransferLogsInOrder stream minConfirmations logs candidates head newId) := by
  refine ⟨sourceLog_sublist logs, ⟨fun log =>
    (pairWithCandidate stream candidates log).map Prod.snd, fun log c => ?_, ?_⟩,
    fun candidates' h => matchTransferLogsInOrder_congr h, ?_⟩
  · rw [Option.map_eq_some_iff]
    constructor
    · rintro ⟨pair, hpair, rfl⟩
      exact (pairWithCandidate_eq_some.mp hpair).2
    · intro h
      exact ⟨(log, c), pairWithCandidate_eq_some.mpr ⟨rfl, h⟩, rfl⟩
  · rw [matchTransferLogsInOrder_eq]
    have hpair : ∀ log, pairWithCandidate stream candidates log
        = ((pairWithCandidate stream candidates log).map Prod.snd).map (fun c => (log, c)) := by
      intro log
      cases hpair : pairWithCandidate stream candidates log with
      | none => rfl
      | some pair =>
        rw [Option.map_some, Option.map_some, ← (pairWithCandidate_eq_some.mp hpair).1]
    rw [← funext hpair]
    rfl
  · intro halone log hlog hof c hc hfor
    have honly := isOnlyCandidate_of_alone hc hfor (halone log.toAddress)
    have hpair : pairWithCandidate stream candidates log = some (log, c) :=
      pairWithCandidate_eq_some.mpr ⟨rfl, hof, honly⟩
    have hin : (log, c) ∈ logs.filterMap (pairWithCandidate stream candidates) :=
      List.mem_filterMap.mpr ⟨log, hlog, hpair⟩
    obtain ⟨i, hi⟩ := List.mem_iff_getElem?.mp hin
    refine ⟨newId i, ?_⟩
    rw [matchTransferLogsInOrder_eq]
    refine List.mem_map.mpr ⟨((log, c), i), ?_, rfl⟩
    exact List.mk_mem_zipIdx_iff_getElem?.mpr hi

end InOrder

open SmallMatch in
/-- A log to an address with one candidate on the stream is matched, whatever other streams
have there. -/
theorem matchTransferLogs_spec_other_stream :
    ∃ id, matchedPaymentInput id log candidate ⟨9, 0x99⟩ 2
      ∈ matchTransferLogsInOrder stream 2 [log]
        [{ candidate with tokenAddress := 0x71 }, candidate] ⟨9, 0x99⟩ (fun _ => 0xf0) := by
  obtain ⟨-, -, hsame, -⟩ := matchTransferLogs_spec stream 2 [log]
    [{ candidate with tokenAddress := 0x71 }, candidate] ⟨9, 0x99⟩ (fun _ => 0xf0)
  obtain ⟨-, -, -, hkept⟩ := matchTransferLogs_spec stream 2 [log] [candidate] ⟨9, 0x99⟩
    (fun _ => 0xf0)
  rw [hsame [candidate] (by decide)]
  exact hkept (fun address => List.countP_le_length) log (by decide) (by decide) candidate
    (by decide) (by decide)

open SmallMatch in
/-- **The only candidate at an address may be of another stream**: a log to the address is
dropped, although no address has two candidates. -/
theorem foreign_candidate_drops_log :
    (∀ address : EvmAddress, [{ candidate with tokenAddress := 0x71 }].countP
        (fun c => decide (c.receiveAddress = address)) ≤ 1)
      ∧ log.isOf stream = true
      ∧ (∃ c ∈ [{ candidate with tokenAddress := 0x71 }], c.receiveAddress = log.toAddress)
      ∧ matchTransferLogsInOrder stream 2 [log] [{ candidate with tokenAddress := 0x71 }]
        ⟨9, 0x99⟩ (fun _ => 0xf0) = [] :=
  ⟨fun _ => List.countP_le_length, by decide, ⟨_, List.mem_singleton_self _, rfl⟩, by decide⟩
