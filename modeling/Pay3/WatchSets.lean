import Pay3.MatchingSpec
import Pay3.ScanCompleteness

/-!
# The watch set

`WatchSetPaymentWindowLookup` answers for the addresses that are watched and asks
its fallback, once, for all the others. It should make no difference: what it
returns should be what the fallback would have.

The watch set is a map from addresses to lists of candidates. A candidate is pushed
to its list whether or not it is there already, and so what is inserted twice is
returned twice. The matcher takes two candidates for an address as two orders and
drops the payment.
-/

/-- `PaymentWindowLookupError`. -/
inductive PaymentWindowLookupError
  | invalidConfig (field message : String)
  | repository (e : RepositoryError)

/-- `PaymentWindowKey`. -/
@[ext]
structure PaymentWindowKey where
  chainId : ℕ
  tokenAddress : EvmAddress
  receiveAddress : EvmAddress
  deriving DecidableEq

/-- `PaymentWindowKey::from_candidate`. -/
def PaymentWindowKey.fromCandidate (c : PaymentWindowCandidate) : PaymentWindowKey :=
  ⟨c.chainId, c.tokenAddress, c.receiveAddress⟩

/-- The key of an address on a stream. -/
def StreamId.keyAt (stream : StreamId) (address : EvmAddress) : PaymentWindowKey :=
  ⟨stream.chainId, stream.tokenAddress, address⟩

/-- `PaymentWindowLookup`: a `lookup_batch`. -/
abbrev PaymentWindowLookup := StreamId → List EvmAddress →
  Except PaymentWindowLookupError (List PaymentWindowCandidate)

/-- The loop of `deduplicate_addresses`, with what it has seen. -/
def deduplicateFrom (seen : List EvmAddress) : List EvmAddress → List EvmAddress
  | [] => []
  | address :: rest =>
    if address ∈ seen then deduplicateFrom seen rest
    else address :: deduplicateFrom (address :: seen) rest

/-- **`deduplicate_addresses`**: the first occurrence of each address. -/
def deduplicateAddresses (toAddresses : List EvmAddress) : List EvmAddress :=
  deduplicateFrom [] toAddresses

/-- `candidate_matches`. -/
def candidateMatches (c : PaymentWindowCandidate) (key : PaymentWindowKey) : Bool :=
  decide (c.chainId = key.chainId) && decide (c.tokenAddress = key.tokenAddress) &&
    decide (c.receiveAddress = key.receiveAddress)

/-- `candidate_is_for_lookup`. -/
def candidateIsForLookup (c : PaymentWindowCandidate) (stream : StreamId) : Bool :=
  decide (c.chainId = stream.chainId) && decide (c.tokenAddress = stream.tokenAddress)

/-! ## Operations -/

/-- The watched candidates, by address. -/
abbrev WatchSet := PaymentWindowKey → Option (List PaymentWindowCandidate)

namespace WatchSet

/-- `WatchSetPaymentWindowLookup::new`. -/
def new : WatchSet := fun _ => none

/-- The candidates watched at a key. -/
def entry (watched : WatchSet) (key : PaymentWindowKey) : List PaymentWindowCandidate :=
  (watched key).getD []

/-- **`insert_candidate`**: the candidate is pushed to the entry of its address. -/
def insertCandidate (watched : WatchSet) (c : PaymentWindowCandidate) : WatchSet :=
  Function.update watched (.fromCandidate c)
    (some (watched.entry (.fromCandidate c) ++ [c]))

/-- **`replace_watch_set`**: everything is cleared and the candidates pushed. -/
def replaceWatchSet (candidates : List PaymentWindowCandidate) : WatchSet :=
  candidates.foldl insertCandidate new

/-- **`remove_address`**, with what was watched there. -/
def removeAddress (watched : WatchSet) (stream : StreamId) (address : EvmAddress) :
    WatchSet × List PaymentWindowCandidate :=
  (Function.update watched (stream.keyAt address) none, watched.entry (stream.keyAt address))

/-- One turn of the loop of `lookup_batch` over the addresses: the hits are added to the
candidates, and without hits the address is a miss. -/
def collectHits (watched : WatchSet) (stream : StreamId)
    (collected : List PaymentWindowCandidate × List EvmAddress) (address : EvmAddress) :
    List PaymentWindowCandidate × List EvmAddress :=
  match watched (stream.keyAt address) with
  | none => (collected.1, collected.2 ++ [address])
  | some hits =>
    let candidates := collected.1 ++ hits.filter
      (fun c => candidateMatches c (stream.keyAt address))
    if candidates.length = collected.1.length then (candidates, collected.2 ++ [address])
    else (candidates, collected.2)

/-- **`lookup_batch`** over a fallback, which is asked once for all the misses. -/
def lookupBatch (watched : WatchSet) (fallback : PaymentWindowLookup) : PaymentWindowLookup :=
  fun stream toAddresses =>
    let deduped := deduplicateAddresses toAddresses
    if deduped.isEmpty then .ok []
    else
      let collected := deduped.foldl (watched.collectHits stream) ([], [])
      if collected.2.isEmpty then .ok collected.1
      else do
        let found ← fallback stream collected.2
        .ok (collected.1 ++ found.filter (fun c => candidateIsForLookup c stream))

end WatchSet

/-- **`lookup_batch` over the repository**, for so many addresses at most. -/
def repositoryLookupBatch (db : PaymentDb) (maxAddresses : ℕ) : PaymentWindowLookup :=
  fun stream toAddresses => do
    ensure (decide (maxAddresses ≠ 0))
      (.invalidConfig "max_addresses" "must be greater than zero")
    ensure (decide ((deduplicateAddresses toAddresses).length ≤ maxAddresses))
      (.invalidConfig "to_addresses" ("received "
        ++ toString (deduplicateAddresses toAddresses).length ++ " addresses, max "
        ++ toString maxAddresses))
    (lookupPaymentWindowCandidates db stream (deduplicateAddresses toAddresses)).mapError
      PaymentWindowLookupError.repository

/-- A call that changes the watch set. -/
inductive WatchSetCall
  | replaceWatchSet (candidates : List PaymentWindowCandidate)
  | insertCandidate (c : PaymentWindowCandidate)
  | removeAddress (stream : StreamId) (address : EvmAddress)
  deriving DecidableEq

/-- The candidates a call brings. -/
def WatchSetCall.candidates : WatchSetCall → List PaymentWindowCandidate
  | .replaceWatchSet candidates => candidates
  | .insertCandidate c => [c]
  | .removeAddress _ _ => []

/-- The watch set after a call. -/
def WatchSet.step (watched : WatchSet) : WatchSetCall → WatchSet
  | .replaceWatchSet candidates => .replaceWatchSet candidates
  | .insertCandidate c => watched.insertCandidate c
  | .removeAddress stream address => (watched.removeAddress stream address).1

/-- The call brings no candidate that is watched already, and none twice. -/
def WatchSetCall.IsFresh (watched : WatchSet) : WatchSetCall → Prop
  | .replaceWatchSet candidates => candidates.Nodup
  | .insertCandidate c => c ∉ watched.entry (.fromCandidate c)
  | .removeAddress _ _ => True

/-! ## Addresses -/

theorem mem_deduplicateFrom {seen addresses : List EvmAddress} {a : EvmAddress} :
    a ∈ deduplicateFrom seen addresses ↔ a ∈ addresses ∧ a ∉ seen := by
  induction addresses generalizing seen with
  | nil => simp [deduplicateFrom]
  | cons b rest ih =>
    unfold deduplicateFrom
    by_cases hb : b ∈ seen
    · rw [if_pos hb, ih, List.mem_cons]
      constructor
      · rintro ⟨ha, hseen⟩
        exact ⟨Or.inr ha, hseen⟩
      · rintro ⟨rfl | ha, hseen⟩
        · exact absurd hb hseen
        · exact ⟨ha, hseen⟩
    · rw [if_neg hb, List.mem_cons, ih, List.mem_cons, List.mem_cons]
      by_cases hab : a = b
      · simp [hab, hb]
      · simp [hab]

theorem nodup_deduplicateFrom (seen addresses : List EvmAddress) :
    (deduplicateFrom seen addresses).Nodup := by
  induction addresses generalizing seen with
  | nil => exact List.nodup_nil
  | cons b rest ih =>
    unfold deduplicateFrom
    split_ifs with hb
    · exact ih seen
    · refine List.nodup_cons.mpr ⟨fun hmem => ?_, ih _⟩
      exact (mem_deduplicateFrom.mp hmem).2 List.mem_cons_self

@[simp] theorem mem_deduplicateAddresses {addresses : List EvmAddress} {a : EvmAddress} :
    a ∈ deduplicateAddresses addresses ↔ a ∈ addresses := by
  simp [deduplicateAddresses, mem_deduplicateFrom]

theorem nodup_deduplicateAddresses (addresses : List EvmAddress) :
    (deduplicateAddresses addresses).Nodup :=
  nodup_deduplicateFrom [] addresses

theorem deduplicateFrom_eq_self {seen addresses : List EvmAddress} (hnodup : addresses.Nodup)
    (hseen : ∀ a ∈ addresses, a ∉ seen) : deduplicateFrom seen addresses = addresses := by
  induction addresses generalizing seen with
  | nil => rfl
  | cons b rest ih =>
    obtain ⟨hb, hrest⟩ := List.nodup_cons.mp hnodup
    unfold deduplicateFrom
    rw [if_neg (hseen b List.mem_cons_self), ih hrest]
    intro a ha
    rw [List.mem_cons, not_or]
    exact ⟨fun heq => hb (heq ▸ ha), hseen a (List.mem_cons_of_mem b ha)⟩

theorem deduplicateAddresses_eq_self {addresses : List EvmAddress} (h : addresses.Nodup) :
    deduplicateAddresses addresses = addresses :=
  deduplicateFrom_eq_self h (fun _ _ => List.not_mem_nil)

theorem length_deduplicateAddresses_le {addresses addresses' : List EvmAddress}
    (h : addresses ⊆ addresses') :
    (deduplicateAddresses addresses).length ≤ (deduplicateAddresses addresses').length := by
  refine (List.subperm_of_subset (nodup_deduplicateAddresses addresses) ?_).length_le
  intro a ha
  exact mem_deduplicateAddresses.mpr (h (mem_deduplicateAddresses.mp ha))

/-! ## Fallbacks -/

/-- **The fallback answers from the rows**: each row at the addresses once, and to fewer
addresses it answers as well. -/
structure PaymentWindowLookup.AnswersFrom (fallback : PaymentWindowLookup)
    (IsRow : PaymentWindowCandidate → Prop) : Prop where
  /-- No row is in an answer twice. -/
  nodup : ∀ {stream addresses answer}, fallback stream addresses = .ok answer → answer.Nodup
  /-- An answer has the rows of the stream at the addresses. -/
  mem_iff : ∀ {stream addresses answer}, fallback stream addresses = .ok answer →
    ∀ c, c ∈ answer ↔ IsRow c ∧ ∃ a ∈ addresses, c.isFor stream a = true
  /-- What is answered for some addresses is answered for fewer. -/
  subset : ∀ {stream addresses addresses' answer}, fallback stream addresses = .ok answer →
    addresses' ⊆ addresses → ∃ answer', fallback stream addresses' = .ok answer'

theorem PaymentWindowCandidate.isFor_eq_true {stream : StreamId} {address : EvmAddress}
    {c : PaymentWindowCandidate} :
    c.isFor stream address = true ↔ .fromCandidate c = stream.keyAt address := by
  simp [isFor, PaymentWindowKey.fromCandidate, StreamId.keyAt, and_assoc]

theorem candidateIsForLookup_of_isFor {stream : StreamId} {address : EvmAddress}
    {c : PaymentWindowCandidate} (h : c.isFor stream address = true) :
    candidateIsForLookup c stream = true :=
  (Bool.and_eq_true_iff.mp h).1

theorem candidateMatches_eq_true {c : PaymentWindowCandidate} {key : PaymentWindowKey} :
    candidateMatches c key = true ↔ .fromCandidate c = key := by
  simp [candidateMatches, PaymentWindowKey.fromCandidate, PaymentWindowKey.ext_iff, and_assoc]

theorem StreamId.keyAt_inj {stream : StreamId} {a b : EvmAddress} :
    stream.keyAt a = stream.keyAt b ↔ a = b := by
  simp [keyAt]

/-- The rows of the tables that can be read. -/
def PaymentDb.IsCandidate (db : PaymentDb) (c : PaymentWindowCandidate) : Prop :=
  ∃ o ∈ db.orders, ∃ w ∈ db.windows, o.id = w.orderId ∧ paymentWindowCandidate o w = .ok c

section Repository

variable {db : PaymentDb} {stream : StreamId} {addresses addresses' : List EvmAddress}
  {candidates : List PaymentWindowCandidate}

/-- What is looked up is what is in the tables. -/
theorem mem_lookupPaymentWindowCandidates
    (h : lookupPaymentWindowCandidates db stream addresses = .ok candidates)
    (c : PaymentWindowCandidate) :
    c ∈ candidates ↔ db.IsCandidate c ∧ ∃ a ∈ addresses, c.isFor stream a = true := by
  by_cases hne : addresses = []
  · rw [hne] at h ⊢
    rw [← Except.ok.inj h]
    simp
  obtain ⟨-, hfrom, hread⟩ := PaymentDb.mem_of_lookup h hne
  constructor
  · intro hc
    obtain ⟨⟨o, w⟩, hrow, hcandidate⟩ := hfrom c hc
    obtain ⟨hw, ho, hid, hchain, htoken, haddress⟩ := PaymentDb.mem_windowRows.mp hrow
    obtain ⟨-, hto, hchain', htoken'⟩ := PaymentDb.paymentWindowCandidate_eq_ok hcandidate
    refine ⟨⟨o, ho, w, hw, hid, hcandidate⟩, c.receiveAddress, hto ▸ haddress, ?_⟩
    rw [PaymentWindowCandidate.isFor_eq_true, PaymentWindowKey.fromCandidate, StreamId.keyAt,
      hchain', htoken', hchain, htoken]
  · rintro ⟨⟨o, ho, w, hw, hid, hcandidate⟩, a, ha, hfor⟩
    obtain ⟨-, hto, hchain', htoken'⟩ := PaymentDb.paymentWindowCandidate_eq_ok hcandidate
    rw [PaymentWindowCandidate.isFor_eq_true, PaymentWindowKey.fromCandidate, StreamId.keyAt,
      PaymentWindowKey.mk.injEq] at hfor
    obtain ⟨hchain, htoken, haddress⟩ := hfor
    have hrow : (o, w) ∈ db.windowRows stream addresses :=
      PaymentDb.mem_windowRows.mpr ⟨hw, ho, hid, hchain'.symm.trans hchain,
        htoken'.symm.trans htoken, by rwa [← hto, haddress]⟩
    obtain ⟨c', hc', hread'⟩ := hread (o, w) hrow
    rwa [Except.ok.inj (hcandidate.symm.trans hread')]

/-- Each order is looked up once. -/
theorem nodup_lookupPaymentWindowCandidates (hdir : db.Directory)
    (h : lookupPaymentWindowCandidates db stream addresses = .ok candidates) :
    candidates.Nodup := by
  by_cases hne : addresses = []
  · rw [hne] at h
    rw [← Except.ok.inj h]
    exact List.nodup_nil
  obtain ⟨hperm, -, -⟩ := PaymentDb.mem_of_lookup h hne
  exact List.Nodup.of_map PaymentWindowCandidate.orderId
    (hperm.nodup_iff.mpr (hdir.nodup_windowRows stream addresses))

/-- Fewer addresses have fewer rows that cannot be read. -/
theorem lookupPaymentWindowCandidates_of_subset
    (h : lookupPaymentWindowCandidates db stream addresses = .ok candidates)
    (hsub : addresses' ⊆ addresses) :
    ∃ candidates', lookupPaymentWindowCandidates db stream addresses' = .ok candidates' := by
  by_cases hne' : addresses' = []
  · exact ⟨[], by rw [hne']; rfl⟩
  have hne : addresses ≠ [] := by
    rintro rfl
    exact hne' (List.subset_nil.mp hsub)
  obtain ⟨-, -, hread⟩ := PaymentDb.mem_of_lookup h hne
  unfold lookupPaymentWindowCandidates at h ⊢
  rw [if_neg (by simpa using hne)] at h
  rw [if_neg (by simpa using hne')]
  obtain ⟨u, hchain, -⟩ := Except.bind_eq_ok.mp h
  have hrows : ∀ row ∈ (db.windowRows stream addresses').insertionSort (fun a b =>
      a.2.receiveAddress < b.2.receiveAddress ∨ (a.2.receiveAddress = b.2.receiveAddress ∧
        (a.2.windowFromBlock.number < b.2.windowFromBlock.number ∨
          (a.2.windowFromBlock.number = b.2.windowFromBlock.number ∧ a.1.id ≤ b.1.id)))),
      ∃ c, paymentWindowCandidate row.1 row.2 = .ok c := by
    rintro ⟨o, w⟩ hrow
    obtain ⟨hw, ho, hid, hchain, htoken, haddress⟩ :=
      PaymentDb.mem_windowRows.mp ((List.mem_insertionSort _).mp hrow)
    obtain ⟨c, -, hc⟩ := hread (o, w)
      (PaymentDb.mem_windowRows.mpr ⟨hw, ho, hid, hchain, htoken, hsub haddress⟩)
    exact ⟨c, hc⟩
  obtain ⟨candidates', hcandidates⟩ := exists_collectOk hrows
  exact ⟨candidates', Except.bind_eq_ok.mpr ⟨u, hchain, hcandidates⟩⟩

theorem repositoryLookupBatch_eq_ok {maxAddresses : ℕ} :
    repositoryLookupBatch db maxAddresses stream addresses = .ok candidates
      ↔ maxAddresses ≠ 0 ∧ (deduplicateAddresses addresses).length ≤ maxAddresses
        ∧ lookupPaymentWindowCandidates db stream (deduplicateAddresses addresses)
          = .ok candidates := by
  unfold repositoryLookupBatch
  rw [ensure_bind_eq_ok, ensure_bind_eq_ok, Except.mapError_eq_ok, decide_eq_true_eq,
    decide_eq_true_eq]

/-- **The repository answers from its tables.** -/
theorem repositoryLookupBatch_answersFrom (hdir : db.Directory) (maxAddresses : ℕ) :
    PaymentWindowLookup.AnswersFrom (repositoryLookupBatch db maxAddresses) db.IsCandidate where
  nodup h := by
    obtain ⟨-, -, hlookup⟩ := repositoryLookupBatch_eq_ok.mp h
    exact nodup_lookupPaymentWindowCandidates hdir hlookup
  mem_iff h c := by
    obtain ⟨-, -, hlookup⟩ := repositoryLookupBatch_eq_ok.mp h
    rw [mem_lookupPaymentWindowCandidates hlookup c]
    simp only [mem_deduplicateAddresses]
  subset h hsub := by
    obtain ⟨hmax, hlength, hlookup⟩ := repositoryLookupBatch_eq_ok.mp h
    obtain ⟨candidates', hlookup'⟩ := lookupPaymentWindowCandidates_of_subset hlookup
      (fun a ha => mem_deduplicateAddresses.mpr (hsub (mem_deduplicateAddresses.mp ha)))
    exact ⟨candidates', repositoryLookupBatch_eq_ok.mpr
      ⟨hmax, (length_deduplicateAddresses_le hsub).trans hlength, hlookup'⟩⟩

end Repository

/-! ## Entries -/

namespace WatchSet

variable {watched : WatchSet} {IsRow : PaymentWindowCandidate → Prop}

theorem entry_insertCandidate (watched : WatchSet) (c : PaymentWindowCandidate)
    (key : PaymentWindowKey) :
    (watched.insertCandidate c).entry key
      = if .fromCandidate c = key then watched.entry key ++ [c] else watched.entry key := by
  unfold insertCandidate entry
  by_cases hkey : PaymentWindowKey.fromCandidate c = key
  · rw [hkey, Function.update_self, if_pos rfl]
    rfl
  · rw [Function.update_of_ne (Ne.symm hkey), if_neg hkey]

/-- Pushed candidates are at their keys, in order. -/
theorem entry_foldl_insertCandidate (watched : WatchSet) (candidates : List PaymentWindowCandidate)
    (key : PaymentWindowKey) :
    (candidates.foldl insertCandidate watched).entry key
      = watched.entry key ++ candidates.filter (fun c => decide (.fromCandidate c = key)) := by
  induction candidates generalizing watched with
  | nil => simp
  | cons c rest ih =>
    rw [List.foldl_cons, ih, entry_insertCandidate]
    by_cases hkey : PaymentWindowKey.fromCandidate c = key
    · simp [hkey]
    · simp [hkey]

theorem entry_replaceWatchSet (candidates : List PaymentWindowCandidate) (key : PaymentWindowKey) :
    (replaceWatchSet candidates).entry key
      = candidates.filter (fun c => decide (.fromCandidate c = key)) := by
  unfold replaceWatchSet
  rw [entry_foldl_insertCandidate]
  rfl

theorem entry_removeAddress (watched : WatchSet) (stream : StreamId) (address : EvmAddress)
    (key : PaymentWindowKey) :
    (watched.removeAddress stream address).1.entry key
      = if stream.keyAt address = key then [] else watched.entry key := by
  unfold removeAddress entry
  dsimp only
  by_cases hkey : stream.keyAt address = key
  · rw [hkey, Function.update_self, if_pos rfl]
    rfl
  · rw [Function.update_of_ne (Ne.symm hkey), if_neg hkey]

/-- **What the entries keep**: a watched candidate is at its own key, and is a row. -/
def HoldsRows (IsRow : PaymentWindowCandidate → Prop) (watched : WatchSet) : Prop :=
  ∀ key, ∀ c ∈ watched.entry key, .fromCandidate c = key ∧ IsRow c

/-- **Every watched address has all of its rows.** -/
def HasAllRows (IsRow : PaymentWindowCandidate → Prop) (watched : WatchSet) : Prop :=
  ∀ key, watched.entry key ≠ [] → ∀ c, IsRow c → .fromCandidate c = key → c ∈ watched.entry key

/-- No candidate is watched twice. -/
def NoneTwice (watched : WatchSet) : Prop :=
  ∀ key, (watched.entry key).Nodup

/-- The watch set after some calls. -/
def after (calls : List WatchSetCall) : WatchSet :=
  calls.foldl step new

/-- Every call brings only rows. -/
def CallsBringRows (IsRow : PaymentWindowCandidate → Prop) (calls : List WatchSetCall) : Prop :=
  ∀ call ∈ calls, ∀ c ∈ call.candidates, IsRow c

/-- Every call is fresh where it is made. -/
def CallsAreFresh (calls : List WatchSetCall) : Prop :=
  StepsMeet (fun watched call => some (step watched call))
    (fun watched call => call.IsFresh watched) new calls

theorem HoldsRows.step {call : WatchSetCall} (h : watched.HoldsRows IsRow)
    (hrows : ∀ c ∈ call.candidates, IsRow c) : (watched.step call).HoldsRows IsRow := by
  intro key c hc
  cases call with
  | replaceWatchSet candidates =>
    rw [WatchSet.step, entry_replaceWatchSet, List.mem_filter, decide_eq_true_eq] at hc
    exact ⟨hc.2, hrows c hc.1⟩
  | insertCandidate d =>
    rw [WatchSet.step, entry_insertCandidate] at hc
    split_ifs at hc with hkey
    · rcases List.mem_append.mp hc with hc | hc
      · exact h key c hc
      · rw [List.mem_singleton.mp hc]
        exact ⟨hkey, hrows d (List.mem_singleton_self d)⟩
    · exact h key c hc
  | removeAddress stream address =>
    rw [WatchSet.step, entry_removeAddress] at hc
    split_ifs at hc with hkey
    · cases hc
    · exact h key c hc

theorem NoneTwice.step {call : WatchSetCall} (h : watched.NoneTwice)
    (hfresh : call.IsFresh watched) : (watched.step call).NoneTwice := by
  intro key
  cases call with
  | replaceWatchSet candidates =>
    rw [WatchSet.step, entry_replaceWatchSet]
    exact List.Nodup.filter _ hfresh
  | insertCandidate d =>
    rw [WatchSet.step, entry_insertCandidate]
    split_ifs with hkey
    · refine List.nodup_append.mpr ⟨h key, List.nodup_singleton d, fun c hc e he => ?_⟩
      rintro rfl
      rw [List.mem_singleton.mp he, ← hkey] at hc
      exact hfresh hc
    · exact h key
  | removeAddress stream address =>
    rw [WatchSet.step, entry_removeAddress]
    split_ifs with hkey
    · exact List.nodup_nil
    · exact h key

theorem runSteps_after (watched : WatchSet) (calls : List WatchSetCall) :
    runSteps (fun watched call => some (WatchSet.step watched call)) watched calls
      = some (calls.foldl WatchSet.step watched) := by
  induction calls generalizing watched with
  | nil => rfl
  | cons call rest ih => exact ih (watched.step call)

/-- **A watch set holds rows**, whatever calls were made. -/
theorem holdsRows_after {calls : List WatchSetCall} (hrows : CallsBringRows IsRow calls) :
    (after calls).HoldsRows IsRow := by
  have hnew : new.HoldsRows IsRow := fun key c hc => absurd hc List.not_mem_nil
  unfold after
  generalize new = watched at hnew
  induction calls generalizing watched with
  | nil => exact hnew
  | cons call rest ih =>
    exact ih (fun d hd => hrows d (List.mem_cons_of_mem call hd)) (watched.step call)
      (hnew.step (hrows call List.mem_cons_self))

/-- **Nothing is watched twice** after fresh calls. -/
theorem noneTwice_after {calls : List WatchSetCall} (hfresh : CallsAreFresh calls) :
    (after calls).NoneTwice := by
  have hnew : new.NoneTwice := fun _ => List.nodup_nil
  refine inv_of_run (I := NoneTwice) (fun watched call t h hcall hstep => ?_) hnew hfresh
    (runSteps_after new calls)
  rw [← Option.some.inj hstep]
  exact h.step hcall

/-! ## Lookups -/

/-- The loop collects the hits of the addresses that have any, and misses the others. -/
theorem foldl_collectHits (hrows : watched.HoldsRows IsRow) (stream : StreamId)
    (addresses : List EvmAddress) (collected : List PaymentWindowCandidate × List EvmAddress) :
    addresses.foldl (watched.collectHits stream) collected
      = (collected.1 ++ addresses.flatMap (fun a => watched.entry (stream.keyAt a)),
        collected.2 ++ addresses.filter (fun a => (watched.entry (stream.keyAt a)).isEmpty)) := by
  induction addresses generalizing collected with
  | nil => simp
  | cons a rest ih =>
    rw [List.foldl_cons, ih, List.flatMap_cons, List.filter_cons]
    have hturn : watched.collectHits stream collected a
        = (collected.1 ++ watched.entry (stream.keyAt a),
          if (watched.entry (stream.keyAt a)).isEmpty then collected.2 ++ [a]
          else collected.2) := by
      have hentry := hrows (stream.keyAt a)
      unfold collectHits
      unfold entry at hentry ⊢
      cases hhits : watched (stream.keyAt a) with
      | none => simp
      | some hits =>
        rw [hhits, Option.getD_some] at hentry
        -- every hit is for the address it is watched at
        have hall : hits.filter (fun c => candidateMatches c (stream.keyAt a)) = hits :=
          List.filter_eq_self.mpr (fun c hc => candidateMatches_eq_true.mpr (hentry c hc).1)
        cases hits with
        | nil => simp
        | cons c hits => simp [hall]
    rw [hturn]
    split_ifs <;> simp

/-- What a watched lookup returns. -/
theorem lookupBatch_eq (hrows : watched.HoldsRows IsRow) (fallback : PaymentWindowLookup)
    (stream : StreamId) (addresses : List EvmAddress) :
    watched.lookupBatch fallback stream addresses
      = let hits := (deduplicateAddresses addresses).flatMap
          (fun a => watched.entry (stream.keyAt a))
        let misses := (deduplicateAddresses addresses).filter
          (fun a => (watched.entry (stream.keyAt a)).isEmpty)
        if misses.isEmpty then .ok hits
        else (fallback stream misses).map
          (fun found => hits ++ found.filter (fun c => candidateIsForLookup c stream)) := by
  unfold lookupBatch
  dsimp only
  rw [foldl_collectHits hrows, List.nil_append, List.nil_append]
  cases hdeduped : deduplicateAddresses addresses with
  | nil => rfl
  | cons a rest =>
    rw [List.isEmpty_cons, if_neg Bool.false_ne_true]
    split_ifs
    · rfl
    · cases fallback stream ((a :: rest).filter
        (fun a => (watched.entry (stream.keyAt a)).isEmpty)) <;> rfl

section Transparent

variable {fallback : PaymentWindowLookup} {stream : StreamId} {addresses : List EvmAddress}
  {answer : List PaymentWindowCandidate}

/-- What is watched at an address is all there is for it. -/
theorem mem_entry_iff (hrows : watched.HoldsRows IsRow) (hall : watched.HasAllRows IsRow)
    {a : EvmAddress} (ha : watched.entry (stream.keyAt a) ≠ []) {c : PaymentWindowCandidate} :
    c ∈ watched.entry (stream.keyAt a) ↔ IsRow c ∧ c.isFor stream a = true := by
  rw [PaymentWindowCandidate.isFor_eq_true]
  constructor
  · intro hc
    exact (hrows _ c hc).symm
  · rintro ⟨hrow, hkey⟩
    exact hall _ ha c hrow hkey

/-- The hits have no candidate twice exactly if no entry has. -/
theorem nodup_hits_iff (hrows : watched.HoldsRows IsRow) (stream : StreamId)
    (addresses : List EvmAddress) :
    ((deduplicateAddresses addresses).flatMap (fun a => watched.entry (stream.keyAt a))).Nodup
      ↔ ∀ a ∈ addresses, (watched.entry (stream.keyAt a)).Nodup := by
  rw [List.nodup_flatMap]
  simp only [mem_deduplicateAddresses]
  refine and_iff_left ((nodup_deduplicateAddresses addresses).imp (fun {a b} hne c ha hb => ?_))
  have hkey : stream.keyAt a = stream.keyAt b := (hrows _ c ha).1.symm.trans (hrows _ c hb).1
  exact hne (StreamId.keyAt_inj.mp hkey)

/-- The fallback's part of a lookup: the rows at the misses. -/
theorem exists_fallback_part (hfallback : fallback.AnswersFrom IsRow)
    (hanswer : fallback stream addresses = .ok answer) {misses : List EvmAddress}
    (hmisses : misses ⊆ addresses) :
    ∃ found, fallback stream misses = .ok found ∧ found.Nodup
      ∧ found.filter (fun c => candidateIsForLookup c stream) = found
      ∧ ∀ c, c ∈ found ↔ IsRow c ∧ ∃ a ∈ misses, c.isFor stream a = true := by
  obtain ⟨found, hfound⟩ := hfallback.subset hanswer hmisses
  refine ⟨found, hfound, hfallback.nodup hfound, List.filter_eq_self.mpr (fun c hc => ?_),
    hfallback.mem_iff hfound⟩
  obtain ⟨-, a, -, hfor⟩ := (hfallback.mem_iff hfound c).mp hc
  exact candidateIsForLookup_of_isFor hfor

/-- **A watched lookup returns the rows the fallback returns**, and returns one twice exactly
if an entry of the addresses has one twice. -/
theorem exists_lookupBatch (hfallback : fallback.AnswersFrom IsRow)
    (hrows : watched.HoldsRows IsRow) (hall : watched.HasAllRows IsRow)
    (hanswer : fallback stream addresses = .ok answer) :
    ∃ found, watched.lookupBatch fallback stream addresses = .ok found
      ∧ (∀ c, c ∈ found ↔ c ∈ answer)
      ∧ (found.Nodup ↔ ∀ a ∈ addresses, (watched.entry (stream.keyAt a)).Nodup) := by
  have hmem_misses : ∀ a, a ∈ (deduplicateAddresses addresses).filter
      (fun a => (watched.entry (stream.keyAt a)).isEmpty)
        ↔ a ∈ addresses ∧ watched.entry (stream.keyAt a) = [] := by
    intro a
    rw [List.mem_filter, mem_deduplicateAddresses, List.isEmpty_iff]
  obtain ⟨rest, hrest, hnodup, hfilter, hmem⟩ := exists_fallback_part hfallback hanswer
    (fun a ha => ((hmem_misses a).mp ha).1)
  refine ⟨(deduplicateAddresses addresses).flatMap (fun a => watched.entry (stream.keyAt a))
    ++ rest, ?_, fun c => ?_, ?_⟩
  · rw [lookupBatch_eq hrows]
    dsimp only
    split_ifs with hempty
    · -- without misses there is no row for them
      have hnone : rest = [] := by
        refine List.eq_nil_iff_forall_not_mem.mpr (fun c hc => ?_)
        obtain ⟨-, a, ha, -⟩ := (hmem c).mp hc
        rw [List.isEmpty_iff.mp hempty] at ha
        exact List.not_mem_nil ha
      rw [hnone, List.append_nil]
    · rw [hrest]
      exact congrArg (fun found => Except.ok (_ ++ found)) hfilter
  · rw [hfallback.mem_iff hanswer, List.mem_append, List.mem_flatMap, hmem]
    simp only [hmem_misses, mem_deduplicateAddresses]
    constructor
    · rintro (⟨a, ha, hc⟩ | ⟨hrow, a, ⟨ha, -⟩, hfor⟩)
      · obtain ⟨hrow, hfor⟩ := (mem_entry_iff hrows hall (List.ne_nil_of_mem hc)).mp hc
        exact ⟨hrow, a, ha, hfor⟩
      · exact ⟨hrow, a, ha, hfor⟩
    · rintro ⟨hrow, a, ha, hfor⟩
      by_cases hentry : watched.entry (stream.keyAt a) = []
      · exact Or.inr ⟨hrow, a, ⟨ha, hentry⟩, hfor⟩
      · exact Or.inl ⟨a, ha, (mem_entry_iff hrows hall hentry).mpr ⟨hrow, hfor⟩⟩
  · rw [List.nodup_append, nodup_hits_iff hrows]
    refine and_iff_left ⟨hnodup, fun c hc d hd => ?_⟩
    rintro rfl
    -- a hit is at a watched address and a row of the fallback at one that is not
    obtain ⟨a, -, ha⟩ := List.mem_flatMap.mp hc
    obtain ⟨-, b, hb, hfor⟩ := (hmem c).mp hd
    have hkey : stream.keyAt a = stream.keyAt b :=
      (hrows _ c ha).1.symm.trans (PaymentWindowCandidate.isFor_eq_true.mp hfor)
    rw [hkey, ((hmem_misses b).mp hb).2] at ha
    exact List.not_mem_nil ha

/-- **The watch set is transparent for a lookup** the fallback answers: the same candidates are
returned, none of them twice, and the matcher gives the same payments. -/
def IsTransparent (watched : WatchSet) (fallback : PaymentWindowLookup) (stream : StreamId)
    (addresses : List EvmAddress) (answer : List PaymentWindowCandidate) : Prop :=
  ∃ found, watched.lookupBatch fallback stream addresses = .ok found ∧ found.Perm answer
    ∧ found.Nodup
    ∧ ∀ minConfirmations logs head newId,
      matchTransferLogsInOrder stream minConfirmations logs found head newId
        = matchTransferLogsInOrder stream minConfirmations logs answer head newId

/-- A lookup is transparent exactly if the entries of its addresses have nothing twice. -/
theorem isTransparent_iff (hfallback : fallback.AnswersFrom IsRow)
    (hrows : watched.HoldsRows IsRow) (hall : watched.HasAllRows IsRow)
    (hanswer : fallback stream addresses = .ok answer) :
    watched.IsTransparent fallback stream addresses answer
      ↔ ∀ a ∈ addresses, (watched.entry (stream.keyAt a)).Nodup := by
  obtain ⟨found, hfound, hmem, hnodup⟩ := exists_lookupBatch hfallback hrows hall hanswer
  constructor
  · rintro ⟨found', hfound', -, hnodup', -⟩
    rw [Except.ok.inj (hfound'.symm.trans hfound)] at hnodup'
    exact hnodup.mp hnodup'
  · intro hentries
    have hperm : found.Perm answer :=
      (List.perm_ext_iff_of_nodup (hnodup.mpr hentries) (hfallback.nodup hanswer)).mpr hmem
    refine ⟨found, hfound, hperm, hnodup.mpr hentries, fun minConfirmations logs head newId => ?_⟩
    exact matchTransferLogsInOrder_congr (fun log _ => hperm.filter _)

end Transparent

/-- **The watch set is transparent exactly as far as nothing is watched twice.** After calls
that bring only rows, with all the rows of the watched addresses there, a lookup that the
fallback answers is transparent if and only if none of its addresses has a candidate twice;
and after calls that never bring a candidate that is there already, every lookup is. -/
theorem transparent_of_fresh_calls {fallback : PaymentWindowLookup}
    (hfallback : fallback.AnswersFrom IsRow) (calls : List WatchSetCall)
    (hrows : CallsBringRows IsRow calls) (hall : (after calls).HasAllRows IsRow) :
    (∀ stream addresses answer, fallback stream addresses = .ok answer →
      ((after calls).IsTransparent fallback stream addresses answer
        ↔ ∀ a ∈ addresses, ((after calls).entry (stream.keyAt a)).Nodup))
      ∧ (CallsAreFresh calls → ∀ stream addresses answer, fallback stream addresses = .ok answer →
        (after calls).IsTransparent fallback stream addresses answer) := by
  have hiff : ∀ stream addresses answer, fallback stream addresses = .ok answer →
      ((after calls).IsTransparent fallback stream addresses answer
        ↔ ∀ a ∈ addresses, ((after calls).entry (stream.keyAt a)).Nodup) := by
    intro stream addresses answer hanswer
    exact isTransparent_iff hfallback (holdsRows_after hrows) hall hanswer
  refine ⟨hiff, fun hfresh stream addresses answer hanswer => ?_⟩
  exact (hiff stream addresses answer hanswer).mpr
    (fun a _ => noneTwice_after hfresh (stream.keyAt a))

end WatchSet

/-! ## The scanner's lookup -/

/-- `PaymentMatchingError::from`. -/
def PaymentWindowLookupError.toMatchingError : PaymentWindowLookupError → PaymentMatchingError
  | .invalidConfig field message => .paymentWindowLookup field message
  | .repository e => .repository e

/-- **The scanner's lookup is a watched one with nothing watched**, over the repository. -/
theorem lookupBatch_eq_watched (cfg : PaymentScannerConfig) (db : PaymentDb)
    {addresses : List EvmAddress}
    (hnodup : addresses.Nodup) (hne : addresses ≠ []) :
    lookupBatch cfg db addresses
      = (WatchSet.new.lookupBatch (repositoryLookupBatch db cfg.maxFallbackAddresses) cfg.stream
          addresses).mapError PaymentWindowLookupError.toMatchingError := by
  have hrows : WatchSet.new.HoldsRows db.IsCandidate := fun key c hc => absurd hc List.not_mem_nil
  have hmisses : addresses.filter (fun a => (WatchSet.new.entry (cfg.stream.keyAt a)).isEmpty)
      = addresses := List.filter_eq_self.mpr (fun _ _ => rfl)
  have hhits : addresses.flatMap (fun a => WatchSet.new.entry (cfg.stream.keyAt a)) = [] :=
    List.flatMap_eq_nil_iff.mpr (fun _ _ => rfl)
  rw [WatchSet.lookupBatch_eq hrows, deduplicateAddresses_eq_self hnodup]
  dsimp only
  rw [hmisses, hhits, if_neg (by simpa using hne)]
  unfold lookupBatch repositoryLookupBatch
  rw [deduplicateAddresses_eq_self hnodup]
  -- both refuse the same addresses, and what the repository finds is of the stream
  cases decide (cfg.maxFallbackAddresses ≠ 0) with
  | false => rfl
  | true =>
    cases decide (addresses.length ≤ cfg.maxFallbackAddresses) with
    | false => rfl
    | true =>
      cases hlookup : lookupPaymentWindowCandidates db cfg.stream addresses with
      | error e => simp [ensure, bind, Except.bind, Except.mapError, Except.map,
          PaymentWindowLookupError.toMatchingError]
      | ok found =>
        have hfound : found.filter (fun c => candidateIsForLookup c cfg.stream) = found := by
          refine List.filter_eq_self.mpr (fun c hc => ?_)
          obtain ⟨-, a, -, hfor⟩ := (mem_lookupPaymentWindowCandidates hlookup c).mp hc
          exact candidateIsForLookup_of_isFor hfor
        simp [ensure, hfound, bind, Except.bind, Except.mapError, Except.map]

/-! ## A payment dropped -/

namespace SmallMatch

theorem directory : db.Directory :=
  ⟨by decide, by decide, by decide, by decide, by decide⟩

theorem isCandidate_iff {c : PaymentWindowCandidate} : db.IsCandidate c ↔ c = candidate := by
  have hread : paymentWindowCandidate
      ⟨0xd1, "merchant", 0xe1, 0xc1, 1, 0x70, 100, 0, .pending, 10, 20⟩
      ⟨0xd1, 0xc1, ⟨7, 0x97⟩, 10, 20⟩ = .ok candidate := by rfl
  constructor
  · rintro ⟨o, ho, w, hw, -, hc⟩
    rw [List.mem_singleton.mp ho, List.mem_singleton.mp hw, hread] at hc
    exact (Except.ok.inj hc).symm
  · rintro rfl
    exact ⟨_, List.mem_singleton_self _, _, List.mem_singleton_self _, rfl, hread⟩

/-- Inserting the candidate as often as one likes watches all of its address. -/
theorem hasAllRows_of_entry {watched : WatchSet}
    (hentry : candidate ∈ watched.entry (.fromCandidate candidate)) :
    watched.HasAllRows db.IsCandidate := by
  intro key _ c hc hkey
  rw [isCandidate_iff.mp hc] at hkey ⊢
  rwa [← hkey]

end SmallMatch

open SmallMatch in
/-- A candidate that is watched once is found as the repository finds it. -/
theorem WatchSet.transparent_of_one_insert :
    (WatchSet.after [.insertCandidate candidate]).IsTransparent (repositoryLookupBatch db 10) stream
      [0xc1, 0xc2, 0xc1] [candidate] := by
  have hrows : CallsBringRows db.IsCandidate [.insertCandidate candidate] := by
    intro call hcall c hc
    rw [List.mem_singleton.mp hcall] at hc
    exact isCandidate_iff.mpr (List.mem_singleton.mp hc)
  have hfresh : CallsAreFresh [.insertCandidate candidate] := ⟨List.not_mem_nil, trivial⟩
  exact (transparent_of_fresh_calls (repositoryLookupBatch_answersFrom directory 10) _ hrows
    (hasAllRows_of_entry (by decide))).2 hfresh stream _ _ (by rfl)

open SmallMatch in
/-- **A candidate that is inserted twice is returned twice**, although it is a row of the
repository and all there is for its address; and a payment the repository's answer matches
is dropped. -/
theorem WatchSet.inserted_twice_drops_payment :
    CallsBringRows db.IsCandidate [.insertCandidate candidate, .insertCandidate candidate]
      ∧ (WatchSet.after [.insertCandidate candidate, .insertCandidate candidate]).HasAllRows
        db.IsCandidate
      ∧ repositoryLookupBatch db 10 stream [0xc1] = .ok [candidate]
      ∧ (WatchSet.after [.insertCandidate candidate, .insertCandidate candidate]).lookupBatch
        (repositoryLookupBatch db 10) stream [0xc1] = .ok [candidate, candidate]
      ∧ matchTransferLogsInOrder stream 2 [log] [candidate] ⟨9, 0x99⟩ (fun _ => 0xf0)
        = [matchedPaymentInput 0xf0 log candidate ⟨9, 0x99⟩ 2]
      ∧ matchTransferLogsInOrder stream 2 [log] [candidate, candidate] ⟨9, 0x99⟩ (fun _ => 0xf0)
        = [] := by
  refine ⟨fun call hcall c hc => ?_, hasAllRows_of_entry (by decide), by rfl, by rfl, by rfl,
    by rfl⟩
  have hinsert : call = .insertCandidate candidate := by simpa using hcall
  rw [hinsert] at hc
  exact isCandidate_iff.mpr (List.mem_singleton.mp hc)
