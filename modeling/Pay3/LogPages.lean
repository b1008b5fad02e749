import Pay3.LogStoreSystem
import Mathlib.Data.Prod.Lex

/-!
# Reading the store page by page

A consumer reads the transfers of a stream in pages, each behind the token of the last log of
the page before, until a page is empty. It moves its own cursor to `complete_to_block`, so a
block at or below that must not have a log that is still to come: a page can end within a
block, and then the block before it is the last that is complete.

Whatever the limits of the pages, every log is read once, in order, and the block a page says
is complete is complete (`logsPages_complete`). The logs are a map by their tokens, and so are
those of every store that runs (`LogStoreState.nodup_pageTokens`).
-/

/-! ## Sorted rows, read in parts -/

section Sorted

variable {ρ κ : Type} [LinearOrder κ] {key : ρ → κ}

/-- **What comes behind a row** in rows sorted by their keys is what has a greater key. -/
theorem filter_lt_of_pairwise {front rest : List ρ} {last : ρ}
    (h : (front ++ last :: rest).Pairwise (fun a b => key a < key b)) :
    (front ++ last :: rest).filter (fun r => decide (key last < key r)) = rest := by
  obtain ⟨-, hrest, hfront⟩ := List.pairwise_append.mp h
  obtain ⟨hlast, -⟩ := List.pairwise_cons.mp hrest
  have hnone : front.filter (fun r => decide (key last < key r)) = [] :=
    List.filter_eq_nil_iff.mpr (fun r hr => by
      simpa using (hfront r hr last List.mem_cons_self).le)
  rw [List.filter_append, hnone, List.nil_append, List.filter_cons_of_neg (by simp),
    List.filter_eq_self.mpr (fun r hr => by simpa using hlast r hr)]

/-- Rows with different keys, sorted, have greater and greater keys. -/
theorem pairwise_lt_insertionSort {rows : List ρ} (h : (rows.map key).Nodup) :
    (rows.insertionSort (fun a b => key a ≤ key b)).Pairwise (fun a b => key a < key b) := by
  have : Std.Total (fun a b => key a ≤ key b) := ⟨fun a b => le_total (key a) (key b)⟩
  have : IsTrans ρ (fun a b => key a ≤ key b) := ⟨fun _ _ _ => le_trans⟩
  have hle := List.pairwise_insertionSort (fun a b => key a ≤ key b) rows
  have hne : (rows.insertionSort (fun a b => key a ≤ key b)).Pairwise (fun a b => key a ≠ key b) :=
    List.pairwise_map.mp (((List.perm_insertionSort _ rows).map key).nodup_iff.mpr h)
  exact (hle.and hne).imp (fun h => lt_of_le_of_ne h.1 h.2)

end Sorted

/-! ## The order of the logs -/

namespace LogPageToken

/-- Block and log index, to be compared from the left. -/
def lexKey (token : LogPageToken) : ℕ ×ₗ ℕ := toLex (token.blockNumber, token.logIndex)

theorem lexKey_injective : Function.Injective lexKey := by
  rintro ⟨b, i⟩ ⟨b', i'⟩ h
  simp only [lexKey, EmbeddingLike.apply_eq_iff_eq, Prod.mk.injEq] at h
  obtain ⟨rfl, rfl⟩ := h
  rfl

/-- **Tokens are compared by block, then by log index**, as the order that is derived for them. -/
instance : LinearOrder LogPageToken := LinearOrder.lift' lexKey lexKey_injective

theorem lt_iff {a b : LogPageToken} :
    a < b ↔ a.blockNumber < b.blockNumber ∨ a.blockNumber = b.blockNumber ∧ a.logIndex < b.logIndex := by
  show lexKey a < lexKey b ↔ _
  simp only [lexKey, Prod.Lex.toLex_lt_toLex]

theorem blockNumber_le {a b : LogPageToken} (h : a < b) : a.blockNumber ≤ b.blockNumber := by
  obtain h | ⟨h, -⟩ := lt_iff.mp h <;> omega

end LogPageToken

namespace StreamData

/-- **The logs as the map has them**, by their tokens. -/
def orderedLogs (data : StreamData) : List StoredTransferLog :=
  data.logs.insertionSort (fun a b => a.pageToken ≤ b.pageToken)

/-- **`complete_to_block`.** -/
def completeToBlock (data : StreamData) (logs : List StoredTransferLog) (hasMore : Bool) :
    Option ℕ := do
  let last ← logs.getLast?
  if !hasMore then some last.blockNumber
  else match data.orderedLogs.find? (fun log => decide (last.pageToken < log.pageToken)) with
    | some nextLog =>
      if nextLog.blockNumber = last.blockNumber then
        -- `checked_sub`
        if last.blockNumber = 0 then none else some (last.blockNumber - 1)
      else some last.blockNumber
    | none => some last.blockNumber

end StreamData

/-- `LogsPage`. -/
structure LogsPage where
  stream : StreamId
  logs : List StoredTransferLog
  nextToken : Option LogPageToken
  completeToBlock : Option ℕ
  deriving DecidableEq

/-- The errors of `logs_page`. -/
inductive LogsPageError
  | invalidLimit (field : String)
  | streamNotFound (stream : StreamId)
  deriving DecidableEq

/-- The loop of `logs_page`, with the logs taken so far. -/
def takeLogs (after : Option LogPageToken) (limit : ℕ) (logs : List StoredTransferLog) :
    List StoredTransferLog → List StoredTransferLog
  | [] => logs
  | log :: rest =>
    if after.any (fun after => decide (log.pageToken ≤ after)) then takeLogs after limit logs rest
    else if logs.length = limit then logs
    else takeLogs after limit (logs ++ [log]) rest

section Paging

variable (streams : StreamId → Option StreamData) (stream : StreamId)

/-- **`logs_page`.** -/
def logsPage (after : Option LogPageToken) (limit : ℕ) : Except LogsPageError LogsPage := do
  ensure (decide (limit ≠ 0)) (.invalidLimit "limit")
  let data ← orError (streams stream) (.streamNotFound stream)
  let logs := takeLogs after limit [] data.orderedLogs
  let nextToken := logs.getLast?.map StoredTransferLog.pageToken
  let hasMore := nextToken.any (fun token =>
    data.logs.any (fun log => decide (token < log.pageToken)))
  pure ⟨stream, logs, nextToken, data.completeToBlock logs hasMore⟩

/-- **A consumer that reads on until a page is empty**, with a limit for each page: its pages,
the empty one included, or none if they were not enough. -/
def readPages (limits : ℕ → ℕ) :
    ℕ → ℕ → Option LogPageToken → Except LogsPageError (Option (List LogsPage))
  | 0, _, _ => .ok none
  | fuel + 1, i, after => do
    let page ← logsPage streams stream after (limits i)
    if page.logs.isEmpty then pure (some [page])
    else do
      let pages ← readPages limits fuel (i + 1) page.nextToken
      pure (pages.map (fun pages => page :: pages))

end Paging

/-! ## One page -/

variable {streams : StreamId → Option StreamData} {stream : StreamId} {data : StreamData}
  {limit : ℕ} {before rest : List StoredTransferLog}

theorem takeLogs_eq (after : Option LogPageToken) (logs ordered : List StoredTransferLog)
    (h : logs.length ≤ limit) :
    takeLogs after limit logs ordered
      = logs ++ (ordered.filter (fun log =>
          !after.any (fun after => decide (log.pageToken ≤ after)))).take (limit - logs.length) := by
  induction ordered generalizing logs with
  | nil => simp [takeLogs]
  | cons log ordered ih =>
    rw [takeLogs, List.filter_cons]
    by_cases hskip : after.any (fun after => decide (log.pageToken ≤ after)) = true
    · rw [if_pos hskip, ih logs h, hskip]
      rfl
    · rw [if_neg hskip, Bool.eq_false_iff.mpr hskip]
      by_cases hfull : logs.length = limit
      · rw [if_pos hfull, hfull, Nat.sub_self, List.take_zero, List.append_nil]
      · obtain ⟨k, hk⟩ := Nat.exists_eq_succ_of_ne_zero (show limit - logs.length ≠ 0 by omega)
        have hlength : (logs ++ [log]).length = logs.length + 1 := by simp
        rw [if_neg hfull, ih _ (by omega), hlength, hk, show limit - (logs.length + 1) = k by omega]
        simp

/-- The token a reader has after it has read some logs. -/
def tokenAfter (before : List StoredTransferLog) : Option LogPageToken :=
  before.getLast?.map StoredTransferLog.pageToken

/-- **What a reader has not read** is what comes behind its token. -/
theorem filter_tokenAfter
    (h : (before ++ rest).Pairwise (fun a b => a.pageToken < b.pageToken)) :
    (before ++ rest).filter (fun log =>
      !(tokenAfter before).any (fun after => decide (log.pageToken ≤ after))) = rest := by
  rcases List.eq_nil_or_concat' before with rfl | ⟨front, last, rfl⟩
  · simp [tokenAfter]
  · rw [List.append_assoc, List.singleton_append] at *
    have htoken : tokenAfter (front ++ [last]) = some last.pageToken := by simp [tokenAfter]
    refine (List.filter_congr (fun log _ => ?_)).trans (filter_lt_of_pairwise h)
    rw [htoken, Option.any_some, ← decide_not]
    exact decide_eq_decide.mpr not_le

/-- **A page says no more is complete than is**: a log that is still to come is in a later
block. -/
theorem lt_blockNumber_of_completeToBlock {logs : List StoredTransferLog}
    (hordered : data.orderedLogs = before ++ (logs ++ rest))
    (h : data.orderedLogs.Pairwise (fun a b => a.pageToken < b.pageToken)) {b : ℕ}
    (hb : data.completeToBlock logs ((tokenAfter logs).any (fun token =>
      data.logs.any (fun log => decide (token < log.pageToken)))) = some b) :
    ∀ log ∈ rest, b < log.blockNumber := by
  rcases List.eq_nil_or_concat' logs with rfl | ⟨front, last, rfl⟩
  · cases hb
  · have hsplit : data.orderedLogs = (before ++ front) ++ last :: rest := by
      simp [hordered]
    have hbehind := filter_lt_of_pairwise (hsplit ▸ h)
    rw [← hsplit] at hbehind
    cases rest with
    | nil => exact fun log hlog => (List.not_mem_nil hlog).elim
    | cons nextLog rest =>
      have hnext : data.orderedLogs.find? (fun log => decide (last.pageToken < log.pageToken))
          = some nextLog := by
        rw [← List.head?_filter, hbehind, List.head?_cons]
      obtain ⟨hmem, hlt⟩ := List.mem_filter.mp
        (hbehind ▸ List.mem_cons_self : nextLog ∈ data.orderedLogs.filter
          (fun log => decide (last.pageToken < log.pageToken)))
      have hlt := of_decide_eq_true hlt
      have hmore : data.logs.any (fun log => decide (last.pageToken < log.pageToken)) = true :=
        List.any_eq_true.mpr ⟨nextLog, (List.mem_insertionSort _).mp hmem, decide_eq_true hlt⟩
      -- nothing that is to come is in front of the next log
      have hfirst : ∀ log ∈ nextLog :: rest, nextLog.blockNumber ≤ log.blockNumber := by
        intro log hlog
        rcases List.mem_cons.mp hlog with rfl | hlog
        · exact le_rfl
        · have hpairs := (List.pairwise_append.mp (hsplit ▸ h)).2.1
          exact LogPageToken.blockNumber_le
            ((List.pairwise_cons.mp (List.pairwise_cons.mp hpairs).2).1 log hlog)
      have hblock : last.blockNumber ≤ nextLog.blockNumber := LogPageToken.blockNumber_le hlt
      have hlast : (front ++ [last]).getLast? = some last := List.getLast?_concat
      unfold StreamData.completeToBlock tokenAfter at hb
      simp only [hlast, Option.map_some, Option.any_some, hmore, Bool.not_true, Bool.false_eq_true,
        if_false, hnext, Option.bind_eq_bind, Option.bind_some] at hb
      intro log hlog
      have hlog := hfirst log hlog
      split_ifs at hb with hsame hzero
      · obtain rfl := Option.some.inj hb
        omega
      · obtain rfl := Option.some.inj hb
        omega

/-- **A page is the next logs**, as many as it may have, and what it says is complete is. -/
theorem logsPage_spec (hdata : streams stream = some data)
    (hordered : data.orderedLogs = before ++ rest)
    (h : data.orderedLogs.Pairwise (fun a b => a.pageToken < b.pageToken)) (hlimit : 1 ≤ limit) :
    ∃ page, logsPage streams stream (tokenAfter before) limit = .ok page
      ∧ page.logs = rest.take limit ∧ page.nextToken = tokenAfter page.logs
      ∧ ∀ b, page.completeToBlock = some b → ∀ log ∈ rest.drop limit, b < log.blockNumber := by
  have hlogs : takeLogs (tokenAfter before) limit [] data.orderedLogs = rest.take limit := by
    rw [takeLogs_eq _ _ _ (Nat.zero_le limit), hordered, filter_tokenAfter (hordered ▸ h),
      List.nil_append]
    rfl
  have hsplit : data.orderedLogs = before ++ (rest.take limit ++ rest.drop limit) := by
    rw [List.take_append_drop, hordered]
  refine ⟨_, Except.bind_eq_ok.mpr ⟨(), ensure_eq_ok.mpr (decide_eq_true (Nat.ne_of_gt hlimit)),
    Except.bind_eq_ok.mpr ⟨data, orError_eq_ok.mpr hdata, rfl⟩⟩, hlogs, rfl, fun b hb => ?_⟩
  refine lt_blockNumber_of_completeToBlock hsplit h ?_
  rw [← hlogs]
  exact hb

theorem tokenAfter_append {page : List StoredTransferLog} (h : page ≠ []) :
    tokenAfter (before ++ page) = tokenAfter page := by
  unfold tokenAfter
  rw [List.getLast?_append_of_ne_nil before h]

/-! ## All the pages -/

/-- **Reading on from some logs** reads the rest, and what the pages say is complete has been
read. -/
theorem readPages_eq (hdata : streams stream = some data)
    (h : data.orderedLogs.Pairwise (fun a b => a.pageToken < b.pageToken)) {limits : ℕ → ℕ}
    (hlimits : ∀ i, 1 ≤ limits i) {fuel : ℕ} :
    ∀ {i : ℕ} {before rest : List StoredTransferLog}, data.orderedLogs = before ++ rest →
      rest.length < fuel →
      ∃ pages, readPages streams stream limits fuel i (tokenAfter before) = .ok (some pages)
        ∧ pages.flatMap LogsPage.logs = rest
        ∧ ∀ front page back, pages = front ++ page :: back → ∀ b, page.completeToBlock = some b →
          ∀ log ∈ data.orderedLogs, log.blockNumber ≤ b →
            log ∈ before ++ (front.flatMap LogsPage.logs ++ page.logs) := by
  induction fuel with
  | zero => exact fun _ hlength => absurd hlength (Nat.not_lt_zero _)
  | succ fuel ih =>
    intro i before rest hordered hlength
    obtain ⟨page, hpage, hlogs, htoken, hlate⟩ := logsPage_spec hdata hordered h (hlimits i)
    have hsplit : data.orderedLogs = (before ++ page.logs) ++ rest.drop (limits i) := by
      rw [hlogs, List.append_assoc, List.take_append_drop, hordered]
    have hcomplete : ∀ b, page.completeToBlock = some b → ∀ log ∈ data.orderedLogs,
        log.blockNumber ≤ b → log ∈ before ++ page.logs := by
      intro b hb log hlog hle
      rw [hsplit] at hlog
      rcases List.mem_append.mp hlog with hlog | hlog
      · exact hlog
      · exact absurd (hlate b hb log hlog) (Nat.not_lt.mpr hle)
    unfold readPages
    rw [hpage]
    by_cases hempty : page.logs = []
    · have hnil : rest = [] := by
        rw [hempty, eq_comm, List.take_eq_nil_iff] at hlogs
        exact hlogs.resolve_left (Nat.ne_of_gt (hlimits i))
      refine ⟨[page], ?_, ?_, ?_⟩
      · show (if page.logs.isEmpty then _ else _) = _
        rw [if_pos (List.isEmpty_iff.mpr hempty)]
        rfl
      · rw [hnil, List.flatMap_cons, hempty]
        rfl
      · intro front page' back heq b hb
        rcases front with _ | ⟨first, front⟩
        · obtain ⟨rfl, -⟩ := List.cons.inj heq
          exact hcomplete b hb
        · exact absurd (List.cons.inj heq).2.symm
            (List.append_ne_nil_of_right_ne_nil _ (List.cons_ne_nil _ _))
    · have hrest : (rest.drop (limits i)).length < fuel := by
        have hpos := hlimits i
        have hsome : rest ≠ [] := fun hnil => hempty (by rw [hlogs, hnil, List.take_nil])
        have hsome := List.length_pos_iff.mpr hsome
        rw [List.length_drop]
        omega
      obtain ⟨pages, hpages, hall, hcompletes⟩ := @ih (i + 1) (before ++ page.logs)
        (rest.drop (limits i)) hsplit hrest
      rw [tokenAfter_append hempty, ← htoken] at hpages
      refine ⟨page :: pages, ?_, ?_, ?_⟩
      · show (if page.logs.isEmpty then _ else _) = _
        rw [if_neg (by rwa [List.isEmpty_iff])]
        exact Except.bind_eq_ok.mpr ⟨_, hpages, rfl⟩
      · rw [List.flatMap_cons, hall, hlogs]
        exact List.take_append_drop _ _
      · intro front page' back heq b hb
        rcases front with _ | ⟨first, front⟩
        · obtain ⟨rfl, -⟩ := List.cons.inj heq
          exact hcomplete b hb
        · obtain ⟨rfl, hback⟩ := List.cons.inj heq
          intro log hlog hle
          have hmem := hcompletes front page' back hback b hb log hlog hle
          rw [List.append_assoc] at hmem
          rwa [List.flatMap_cons, List.append_assoc]

/-- **Paging visits every log once**, in order, whatever the limits; it ends; and every log of
a block that a page says is complete has been read. -/
theorem logsPages_complete (streams : StreamId → Option StreamData) (stream : StreamId)
    (data : StreamData) (limits : ℕ → ℕ) (hdata : streams stream = some data)
    (hkeys : (data.logs.map StoredTransferLog.pageToken).Nodup) (hlimits : ∀ i, 1 ≤ limits i) :
    ∃ pages, readPages streams stream limits (data.logs.length + 1) 0 none = .ok (some pages)
      ∧ (pages.flatMap LogsPage.logs).Perm data.logs
      ∧ (pages.flatMap LogsPage.logs).Pairwise (fun a b => a.pageToken < b.pageToken)
      ∧ ∀ front page back, pages = front ++ page :: back → ∀ b, page.completeToBlock = some b →
        ∀ log ∈ data.logs, log.blockNumber ≤ b →
          log ∈ front.flatMap LogsPage.logs ++ page.logs := by
  have hsorted := pairwise_lt_insertionSort hkeys
  have hlength : data.orderedLogs.length < data.logs.length + 1 := by
    unfold StreamData.orderedLogs
    rw [List.length_insertionSort]
    exact Nat.lt_succ_self _
  have hnothing : data.orderedLogs = [] ++ data.orderedLogs := rfl
  obtain ⟨pages, hpages, hlogs, hall⟩ :=
    readPages_eq (i := 0) hdata hsorted hlimits hnothing hlength
  refine ⟨pages, hpages, ?_, ?_, ?_⟩
  · rw [hlogs]
    exact List.perm_insertionSort _ _
  · rw [hlogs]
    exact hsorted
  · intro front page back heq b hb log hlog
    exact hall front page back heq b hb log ((List.mem_insertionSort _).mpr hlog)

/-- A stream with two logs in one block and one in a later block. -/
def twoBlocks : StreamData where
  cursor := ⟨⟨1, 0xee⟩, 0, 9, some 8, some 0xb8, .safeTag, 0, none, none, 1, 0⟩
  headers := []
  logs := [⟨1, 0xee, 7, 0xb7, 0, 0xc2, none, 0, 0xa1, 0xa2, 5, false, 0⟩,
    ⟨1, 0xee, 5, 0xb5, 0, 0xc1, none, 1, 0xa1, 0xa2, 4, false, 0⟩,
    ⟨1, 0xee, 5, 0xb5, 0, 0xc1, none, 0, 0xa1, 0xa2, 3, false, 0⟩]
  rangeManifests := []

/-- **A page of one log, then pages of two**: the first ends within its block. -/
theorem logsPages_complete_of_twoBlocks :
    ∃ pages, readPages (fun _ => some twoBlocks) ⟨1, 0xee⟩ (fun i => min (i + 1) 2) 4 0 none
        = .ok (some pages)
      ∧ (pages.flatMap LogsPage.logs).Perm twoBlocks.logs
      ∧ pages.map LogsPage.completeToBlock = [some 4, some 7, none] := by
  obtain ⟨pages, hpages, hperm, -, -⟩ := logsPages_complete (fun _ => some twoBlocks) ⟨1, 0xee⟩
    twoBlocks (fun i => min (i + 1) 2) rfl (by decide) (fun i => by omega)
  have hread : (readPages (fun _ => some twoBlocks) ⟨1, 0xee⟩ (fun i => min (i + 1) 2) 4 0 none).map
      (fun pages => pages.map (fun pages => pages.map LogsPage.completeToBlock))
        = .ok (some [some 4, some 7, none]) := by decide +kernel
  have hpages' : readPages (fun _ => some twoBlocks) ⟨1, 0xee⟩ (fun i => min (i + 1) 2) 4 0 none
      = .ok (some pages) := hpages
  refine ⟨pages, hpages, hperm, ?_⟩
  rw [hpages'] at hread
  exact Option.some.inj (Except.ok.inj hread)

/-! ## The logs are a map -/

section Tokens

variable {cfg : TransferLogStreamConfig} {source : LogStoreSource} {ledger : HashLedger}

/-- No two logs of the stream have one token. -/
def StreamData.TokensOnce (data : StreamData) : Prop :=
  (data.logs.map StoredTransferLog.pageToken).Nodup

theorem StreamData.TokensOnce.applyRewind {data : StreamData} (h : data.TokensOnce) (f : ℕ)
    (now : Timestamp) : (data.applyRewind f now).TokensOnce :=
  h.sublist (List.filter_sublist.map _)

theorem StreamData.TokensOnce.pollStep {data : StreamData} (h : data.TokensOnce) (now : Timestamp)
    (cursor : TransferLogCursor) (pc : PollPc) :
    (pollStep cfg source now cursor data pc).1.TokensOnce := by
  cases pc with
  | rewinding f => exact h.applyRewind f now
  | gathering toBlock logs headers missing =>
    cases missing with
    | nil => exact nodup_map_insertAll h
    | cons number missing => exact h
  | started | walking | comparing | checked | fetching | returned => exact h

/-- A step of the store keeps the tokens different. -/
theorem LogStoreState.tokensOnce_step {s t : LogStoreState} {action : LogStoreAction}
    (h : s.data.TokensOnce) (ht : s.step cfg ledger action = some t) : t.data.TokensOnce := by
  cases action with
  | newChain chain =>
    obtain ⟨-, hsome⟩ := Option.ite_none_right_eq_some.mp ht
    obtain rfl := Option.some.inj hsome
    exact h
  | pollOnce =>
    obtain rfl := Option.some.inj ht
    exact h
  | poll i tags now =>
    simp only [LogStoreState.step] at ht
    cases hp : s.polls[i]? with
    | none =>
      rw [hp] at ht
      cases ht
    | some p =>
      rw [hp] at ht
      obtain ⟨-, hsome⟩ := Option.ite_none_right_eq_some.mp ht
      obtain rfl := Option.some.inj hsome
      exact h.pollStep now p.cursor p.pc
  | rewindTo block now =>
    obtain rfl := Option.some.inj ht
    exact h.applyRewind _ now

/-- **In every store that runs** the logs have different tokens, whatever is asked of it. -/
theorem LogStoreState.nodup_pageTokens {chain : CanonicalChain} {now : Timestamp}
    {actions : List LogStoreAction} {t : LogStoreState}
    (hrun : runSteps (LogStoreState.step cfg ledger) (LogStoreState.initial cfg chain now) actions
      = some t) : (t.data.logs.map StoredTransferLog.pageToken).Nodup :=
  inv_of_run (I := fun s => s.data.TokensOnce) (fun _ _ _ h _ ht => tokensOnce_step h ht)
    List.nodup_nil (stepsMeet_of_forall (P := fun _ _ => True) (fun _ _ => trivial) _ _) hrun

end Tokens
