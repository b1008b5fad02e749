import Pay3.Runs
import Mathlib.Algebra.Group.Nat.Defs
import Mathlib.Data.Fintype.Basic
import Mathlib.Logic.Function.Basic

/-!
# Readiness

The readiness report of a process is read off two records: a list with one entry
for each dependency, and the counters of the two kinds of worker. Each token has
a scanner, a collector and an RPC probe of its own, but the records have one
place for all scanners, one for all collectors and one for all probes, and each
report overwrites the last. What the report says of a place is what was reported
there last, by whichever token.

So the report covers every token as long as no token reports well in a place
where the last report of another token was bad (`ready_covers_tokens`).
-/

/-! ## A place that several reporters share -/

section SharedSlot

variable {ι ρ : Type*} [DecidableEq ι]

/-- **A place for reports**: the latest of all, and the latest of each reporter. -/
structure SharedSlot (ι ρ : Type*) where
  latest : Option ρ
  byReporter : ι → Option ρ

namespace SharedSlot

/-- Nothing has been reported. -/
def empty : SharedSlot ι ρ := ⟨none, fun _ => none⟩

/-- A report comes in. -/
def report (slot : SharedSlot ι ρ) (i : ι) (r : ρ) : SharedSlot ι ρ where
  latest := some r
  byReporter := Function.update slot.byReporter i (some r)

@[simp] theorem report_latest (slot : SharedSlot ι ρ) (i : ι) (r : ρ) :
    (slot.report i r).latest = some r := rfl

@[simp] theorem report_byReporter_self (slot : SharedSlot ι ρ) (i : ι) (r : ρ) :
    (slot.report i r).byReporter i = some r := Function.update_self _ _ _

@[simp] theorem report_byReporter_of_ne (slot : SharedSlot ι ρ) {i j : ι} (r : ρ) (h : j ≠ i) :
    (slot.report i r).byReporter j = slot.byReporter j := Function.update_of_ne h _ _

/-- If the latest report is good, so is the latest of each reporter. -/
def Covered (good : ρ → Prop) (slot : SharedSlot ι ρ) : Prop :=
  (∀ r ∈ slot.latest, good r) → ∀ i, ∀ r ∈ slot.byReporter i, good r

/-- A good report comes in only while the latest of every other reporter is good. -/
def HidesNothing (good : ρ → Prop) (slot : SharedSlot ι ρ) (i : ι) (r : ρ) : Prop :=
  good r → ∀ j, j ≠ i → ∀ r' ∈ slot.byReporter j, good r'

instance [Fintype ι] {good : ρ → Prop} [DecidablePred good] (slot : SharedSlot ι ρ) (i : ι)
    (r : ρ) : Decidable (slot.HidesNothing good i r) :=
  inferInstanceAs (Decidable (good r → ∀ j, j ≠ i → ∀ r' ∈ slot.byReporter j, good r'))

variable {good : ρ → Prop}

omit [DecidableEq ι] in
theorem covered_empty : (empty : SharedSlot ι ρ).Covered good := by
  intro _ i r hr
  cases hr

/-- **A report that hides nothing leaves the place covered.** -/
theorem HidesNothing.covered {slot : SharedSlot ι ρ} {i : ι} {r : ρ}
    (h : slot.HidesNothing good i r) : (slot.report i r).Covered good := by
  intro hlatest j r' hr'
  have hgood : good r := hlatest r rfl
  by_cases hj : j = i
  · rw [hj, report_byReporter_self] at hr'
    exact Option.some.inj hr' ▸ hgood
  · rw [report_byReporter_of_ne slot r hj] at hr'
    exact h hgood j hj r' hr'

end SharedSlot

end SharedSlot

/-! ## Dependencies -/

/-- `DependencyName`. -/
inductive DependencyName
  | db
  | migration
  | rpcChainId
  | signer
  | workerLease
  | paymentScanner
  | collectionCollector
  deriving DecidableEq

/-- `DependencyState`. -/
inductive DependencyState
  | ok
  | failed
  deriving DecidableEq

/-- `DependencyCheck`. -/
structure DependencyCheck where
  name : DependencyName
  status : DependencyState
  message : Option String
  deriving DecidableEq

namespace DependencyCheck

/-- `healthy`. -/
def healthy (name : DependencyName) : DependencyCheck := ⟨name, .ok, none⟩

/-- `failed`. -/
def failed (name : DependencyName) (message : String) : DependencyCheck :=
  ⟨name, .failed, some message⟩

/-- The check of a dependency, from what came out of asking it. -/
def ofResult (name : DependencyName) : Except String Unit → DependencyCheck
  | .ok () => healthy name
  | .error message => failed name message

@[simp] theorem ofResult_name (name : DependencyName) (result : Except String Unit) :
    (ofResult name result).name = name := by cases result <;> rfl

end DependencyCheck

/-- `ReadinessState`. -/
inductive ReadinessState
  | ok
  | failed
  deriving DecidableEq

/-- `ReadinessReport`. -/
structure ReadinessReport where
  status : ReadinessState
  dependencies : List DependencyCheck
  deriving DecidableEq

/-- `ReadinessReport::new`. -/
def ReadinessReport.new (dependencies : List DependencyCheck) : ReadinessReport where
  status := if dependencies.all (fun d => decide (d.status = .ok)) then .ok else .failed
  dependencies := dependencies

/-- `DependencyName::ALL`, all healthy. -/
def allHealthy : List DependencyCheck :=
  [.healthy .db, .healthy .migration, .healthy .rpcChainId, .healthy .signer,
    .healthy .workerLease]

/-- **`set_status`** of the static registry. -/
def setStatus (check : DependencyCheck) : List DependencyCheck → List DependencyCheck
  | [] => [check]
  | d :: rest => if d.name = check.name then check :: rest else d :: setStatus check rest

/-! ## Workers -/

/-- `WorkerName`. -/
inductive WorkerName
  | paymentScanner
  | collectionCollector
  deriving DecidableEq

/-- `dependency_name`. -/
def WorkerName.dependencyName : WorkerName → DependencyName
  | .paymentScanner => .paymentScanner
  | .collectionCollector => .collectionCollector

/-- `WorkerMetricState`; the times in it are only rendered. -/
structure WorkerMetricState where
  successCount : ℕ
  errorCount : ℕ
  consecutiveFailures : ℕ
  lastError : Option String
  lagBlocks : Option ℕ
  lagThresholdBlocks : Option ℕ
  deriving DecidableEq

/-- `saturating_add(1)` on a `u64`. -/
def saturatingSucc (n : ℕ) : ℕ := min (n + 1) (2 ^ 64 - 1)

namespace WorkerMetricState

/-- A worker that has not reported. -/
def default : WorkerMetricState := ⟨0, 0, 0, none, none, none⟩

/-- `record_worker_success`. -/
def recordSuccess (m : WorkerMetricState) : WorkerMetricState :=
  { m with successCount := saturatingSucc m.successCount, consecutiveFailures := 0 }

/-- `record_worker_error`. -/
def recordError (m : WorkerMetricState) (message : String) : WorkerMetricState :=
  { m with
    errorCount := saturatingSucc m.errorCount
    consecutiveFailures := saturatingSucc m.consecutiveFailures
    lastError := some message }

/-- What comes of a tick. -/
def recordTick (m : WorkerMetricState) : Except String Unit → WorkerMetricState
  | .ok () => m.recordSuccess
  | .error message => m.recordError message

/-- `record_worker_lag`. -/
def recordLag (m : WorkerMetricState) (lagBlocks lagThresholdBlocks : ℕ) : WorkerMetricState :=
  { m with lagBlocks := some lagBlocks, lagThresholdBlocks := some lagThresholdBlocks }

/-- **The check of a worker**, as `worker_dependency_checks` has it. -/
def check (m : WorkerMetricState) (dependency : DependencyName) : DependencyCheck :=
  if m.successCount = 0 ∧ m.errorCount = 0 then
    .failed dependency "worker has not reported a tick yet"
  else if 0 < m.consecutiveFailures then
    .failed dependency (m.lastError.getD "worker tick failed")
  else match m.lagThresholdBlocks, m.lagBlocks with
    | none, _ => .healthy dependency
    | some _, none => .failed dependency "worker lag has not been reported yet"
    | some threshold, some lagBlocks =>
      if threshold < lagBlocks then
        .failed dependency ("worker lag " ++ toString lagBlocks ++ " blocks exceeds threshold "
          ++ toString threshold)
      else .healthy dependency

end WorkerMetricState

/-- `scanner_lookback_blocks`. -/
def scannerLookbackBlocks (minConfirmations : ℕ) : ℕ :=
  max (min (minConfirmations * 2) (2 ^ 64 - 1)) 12

/-! ## The process -/

/-- **The records of a process with `n` tokens**, and what was reported by whom. -/
structure ReadinessSystem (n : ℕ) where
  registry : List DependencyCheck
  metrics : WorkerName → WorkerMetricState
  ticks : WorkerName → SharedSlot (Fin n) (Except String Unit)
  lags : SharedSlot (Fin n) (ℕ × ℕ)
  probes : SharedSlot (Fin n) (Except String Unit)

/-- The dependencies that the tokens have in common. -/
inductive CommonDependency
  | db
  | migration
  | signer
  deriving DecidableEq

/-- Their names. -/
def CommonDependency.name : CommonDependency → DependencyName
  | .db => .db
  | .migration => .migration
  | .signer => .signer

/-- **A report of a token**: the end of a tick, the lag of the scanner during one,
or the end of a probe. -/
inductive ReadinessAction (n : ℕ)
  | tick (worker : WorkerName) (token : Fin n) (result : Except String Unit)
  | lag (token : Fin n) (targetBlock scannerBlock : ℕ)
  | probe (token : Fin n) (result : Except String Unit)
  | dependency (common : CommonDependency) (result : Except String Unit)

namespace ReadinessSystem

variable {n : ℕ}

/-- The process starts. -/
def start (n : ℕ) : ReadinessSystem n where
  registry := allHealthy
  metrics := fun _ => .default
  ticks := fun _ => .empty
  lags := .empty
  probes := .empty

/-- **`readiness`** of the runtime registry. -/
def readiness (s : ReadinessSystem n) : ReadinessReport :=
  .new (s.registry ++ [WorkerName.paymentScanner, .collectionCollector].map
    (fun w => (s.metrics w).check w.dependencyName))

section Step

/- How deep a payment has to be, token by token. -/
variable (minConfirmations : Fin n → ℕ)

/-- The lag a scanner reports, and its threshold. -/
def lagReport (token : Fin n) (targetBlock scannerBlock : ℕ) : ℕ × ℕ :=
  (targetBlock - scannerBlock, scannerLookbackBlocks (minConfirmations token))

/-- **A report comes in.** -/
def step (s : ReadinessSystem n) : ReadinessAction n → Option (ReadinessSystem n)
  | .tick worker token result => some { s with
      metrics := Function.update s.metrics worker ((s.metrics worker).recordTick result)
      ticks := Function.update s.ticks worker ((s.ticks worker).report token result) }
  | .lag token targetBlock scannerBlock =>
    let r := lagReport minConfirmations token targetBlock scannerBlock
    some { s with
      metrics := Function.update s.metrics .paymentScanner
        ((s.metrics .paymentScanner).recordLag r.1 r.2)
      lags := s.lags.report token r }
  | .probe token result => some { s with
      registry := setStatus (.ofResult .rpcChainId result) s.registry
      probes := s.probes.report token result }
  | .dependency common result => some { s with
      registry := setStatus (.ofResult common.name result) s.registry }

/-- A tick or a probe that went well. -/
def Succeeded (result : Except String Unit) : Prop := result = .ok ()

/-- A lag within its threshold. -/
def Within (report : ℕ × ℕ) : Prop := report.1 ≤ report.2

instance : DecidablePred Succeeded := fun result => inferInstanceAs (Decidable (result = .ok ()))

instance : DecidablePred Within := fun report => inferInstanceAs (Decidable (report.1 ≤ report.2))

/-- **Every token is covered**: if the process is ready, the last tick of each
worker of each token succeeded, its last lag was within its threshold and its
last probe was healthy. -/
def CoversTokens (s : ReadinessSystem n) : Prop :=
  s.readiness.status = .ok → ∀ token : Fin n,
    (∀ worker, ∀ r ∈ (s.ticks worker).byReporter token, Succeeded r)
      ∧ (∀ r ∈ s.lags.byReporter token, Within r)
      ∧ ∀ r ∈ s.probes.byReporter token, Succeeded r

/-- **A report hides nothing**: it is bad, or the last reports of the same kind by
the other tokens are good. -/
def HidesNothing (s : ReadinessSystem n) : ReadinessAction n → Prop
  | .tick worker token result => (s.ticks worker).HidesNothing Succeeded token result
  | .lag token targetBlock scannerBlock => s.lags.HidesNothing Within token
      (lagReport minConfirmations token targetBlock scannerBlock)
  | .probe token result => s.probes.HidesNothing Succeeded token result
  | .dependency _ _ => True

instance (s : ReadinessSystem n) (a : ReadinessAction n) :
    Decidable (s.HidesNothing minConfirmations a) :=
  match a with
  | .tick worker token result =>
    inferInstanceAs (Decidable ((s.ticks worker).HidesNothing Succeeded token result))
  | .lag token targetBlock scannerBlock =>
    inferInstanceAs (Decidable (s.lags.HidesNothing Within token
      (lagReport minConfirmations token targetBlock scannerBlock)))
  | .probe token result =>
    inferInstanceAs (Decidable (s.probes.HidesNothing Succeeded token result))
  | .dependency _ _ => inferInstanceAs (Decidable True)

end Step

/-! ## What the records show -/

/-- A check that is set is in the registry. -/
theorem mem_setStatus (check : DependencyCheck) (registry : List DependencyCheck) :
    check ∈ setStatus check registry := by
  induction registry with
  | nil => exact List.mem_singleton_self check
  | cons d rest ih =>
    unfold setStatus
    by_cases hname : d.name = check.name
    · rw [if_pos hname]
      exact List.mem_cons_self
    · rw [if_neg hname]
      exact List.mem_cons_of_mem d ih

/-- The checks of other names stay. -/
theorem mem_setStatus_of_ne {check d : DependencyCheck} {registry : List DependencyCheck}
    (hd : d ∈ registry) (hname : d.name ≠ check.name) : d ∈ setStatus check registry := by
  induction registry with
  | nil => cases hd
  | cons e rest ih =>
    unfold setStatus
    rcases List.mem_cons.mp hd with rfl | hrest
    · rw [if_neg hname]
      exact List.mem_cons_self
    · by_cases he : e.name = check.name
      · rw [if_pos he]
        exact List.mem_cons_of_mem check hrest
      · rw [if_neg he]
        exact List.mem_cons_of_mem e (ih hrest)

/-- A healthy check shows that the last tick did not fail, and that the last lag
was within its threshold. -/
theorem check_ok {m : WorkerMetricState} {name : DependencyName}
    (h : (m.check name).status = .ok) :
    m.consecutiveFailures = 0
      ∧ ∀ lagBlocks ∈ m.lagBlocks, ∀ threshold ∈ m.lagThresholdBlocks, lagBlocks ≤ threshold := by
  unfold WorkerMetricState.check at h
  split_ifs at h with hnone hfailures
  · cases h
  · cases h
  · refine ⟨Nat.eq_zero_of_not_pos hfailures, fun lagBlocks hlag threshold hthreshold => ?_⟩
    rw [hlag, hthreshold] at h
    dsimp only at h
    split_ifs at h with hexceeds
    · cases h
    · exact Nat.le_of_not_lt hexceeds

/-- **The records agree with the latest reports**, and every place is covered. -/
structure RecordsInv (s : ReadinessSystem n) : Prop where
  ticks : ∀ worker, (s.metrics worker).consecutiveFailures = 0
    → ∀ r ∈ (s.ticks worker).latest, Succeeded r
  lagBlocks : (s.metrics .paymentScanner).lagBlocks = s.lags.latest.map Prod.fst
  lagThreshold : (s.metrics .paymentScanner).lagThresholdBlocks = s.lags.latest.map Prod.snd
  probes : (∀ d ∈ s.registry, d.name = .rpcChainId → d.status = .ok)
    → ∀ r ∈ s.probes.latest, Succeeded r
  coveredTicks : ∀ worker, (s.ticks worker).Covered Succeeded
  coveredLags : s.lags.Covered Within
  coveredProbes : s.probes.Covered Succeeded

theorem recordsInv_start (n : ℕ) : RecordsInv (start n) where
  ticks := fun _ _ _ hr => (by cases hr)
  lagBlocks := rfl
  lagThreshold := rfl
  probes := fun _ _ hr => (by cases hr)
  coveredTicks := fun _ => SharedSlot.covered_empty
  coveredLags := SharedSlot.covered_empty
  coveredProbes := SharedSlot.covered_empty

/-- **A ready process covers every token.** -/
theorem RecordsInv.coversTokens {s : ReadinessSystem n} (h : RecordsInv s) : s.CoversTokens := by
  intro hready token
  have hall : ∀ d ∈ s.readiness.dependencies, d.status = .ok := by
    have hif : (if s.readiness.dependencies.all (fun d => decide (d.status = .ok)) then
        ReadinessState.ok else .failed) = .ok := hready
    by_contra hne
    rw [if_neg (by simpa using hne)] at hif
    cases hif
  have hworker : ∀ worker, ((s.metrics worker).check worker.dependencyName).status = .ok := by
    intro worker
    refine hall _ (List.mem_append_right _ (List.mem_map_of_mem ?_))
    cases worker <;> simp
  refine ⟨fun worker => ?_, ?_, ?_⟩
  · exact h.coveredTicks worker (h.ticks worker (check_ok (hworker worker)).1) token
  · refine h.coveredLags (fun r hr => ?_) token
    refine (check_ok (hworker .paymentScanner)).2 r.1 ?_ r.2 ?_
    · rw [h.lagBlocks, hr]
      rfl
    · rw [h.lagThreshold, hr]
      rfl
  · exact h.coveredProbes (h.probes (fun d hd _ => hall d (List.mem_append_left _ hd))) token

/-! ## Any interleaving -/

variable {minConfirmations : Fin n → ℕ} {s t : ReadinessSystem n}

/-- The end of a tick. -/
theorem RecordsInv.tick (h : RecordsInv s) {worker : WorkerName} {token : Fin n}
    {result : Except String Unit}
    (hhides : (s.ticks worker).HidesNothing Succeeded token result) :
    RecordsInv { s with
      metrics := Function.update s.metrics worker ((s.metrics worker).recordTick result)
      ticks := Function.update s.ticks worker ((s.ticks worker).report token result) } := by
  have hlag : ∀ f : WorkerMetricState → Option ℕ,
      (∀ m r, f (WorkerMetricState.recordTick m r) = f m)
      → f (Function.update s.metrics worker ((s.metrics worker).recordTick result) .paymentScanner)
        = f (s.metrics .paymentScanner) := by
    intro f hf
    by_cases hw : WorkerName.paymentScanner = worker
    · rw [← hw, Function.update_self, hf]
    · rw [Function.update_of_ne hw]
  refine ⟨fun w => ?_, ?_, ?_, h.probes, fun w => ?_, h.coveredLags, h.coveredProbes⟩
  · show (Function.update s.metrics worker _ w).consecutiveFailures = 0
      → ∀ r ∈ (Function.update s.ticks worker _ w).latest, Succeeded r
    by_cases hw : w = worker
    · rw [hw, Function.update_self, Function.update_self]
      intro hzero r hr
      obtain rfl := Option.some.inj hr
      cases result with
      | ok u => rfl
      | error message =>
        have hsucc : saturatingSucc (s.metrics worker).consecutiveFailures = 0 := hzero
        unfold saturatingSucc at hsucc
        omega
    · rw [Function.update_of_ne hw, Function.update_of_ne hw]
      exact h.ticks w
  · exact (hlag WorkerMetricState.lagBlocks (fun m r => by cases r <;> rfl)).trans h.lagBlocks
  · exact (hlag WorkerMetricState.lagThresholdBlocks
      (fun m r => by cases r <;> rfl)).trans h.lagThreshold
  · show (Function.update s.ticks worker _ w).Covered Succeeded
    by_cases hw : w = worker
    · rw [hw, Function.update_self]
      exact hhides.covered
    · rw [Function.update_of_ne hw]
      exact h.coveredTicks w

/-- The lag of a scanner. -/
theorem RecordsInv.lag (h : RecordsInv s) {token : Fin n} {r : ℕ × ℕ}
    (hhides : s.lags.HidesNothing Within token r) :
    RecordsInv { s with
      metrics := Function.update s.metrics .paymentScanner
        ((s.metrics .paymentScanner).recordLag r.1 r.2)
      lags := s.lags.report token r } := by
  refine ⟨fun w => ?_, ?_, ?_, h.probes, h.coveredTicks, hhides.covered, h.coveredProbes⟩
  · show (Function.update s.metrics .paymentScanner _ w).consecutiveFailures = 0 → _
    by_cases hw : w = .paymentScanner
    · rw [hw, Function.update_self]
      exact h.ticks .paymentScanner
    · rw [Function.update_of_ne hw]
      exact h.ticks w
  · show (Function.update s.metrics .paymentScanner _ .paymentScanner).lagBlocks = _
    rw [Function.update_self]
    rfl
  · show (Function.update s.metrics .paymentScanner _ .paymentScanner).lagThresholdBlocks = _
    rw [Function.update_self]
    rfl

/-- The end of a probe. -/
theorem RecordsInv.probe (h : RecordsInv s) {token : Fin n} {result : Except String Unit}
    (hhides : s.probes.HidesNothing Succeeded token result) :
    RecordsInv { s with
      registry := setStatus (.ofResult .rpcChainId result) s.registry
      probes := s.probes.report token result } := by
  refine ⟨h.ticks, h.lagBlocks, h.lagThreshold, fun hall r hr => ?_, h.coveredTicks, h.coveredLags,
    hhides.covered⟩
  obtain rfl := Option.some.inj hr
  cases result with
  | ok u => rfl
  | error message => cases hall _ (mem_setStatus _ _) rfl

/-- What is reported of the other dependencies. -/
theorem RecordsInv.dependency (h : RecordsInv s) (common : CommonDependency)
    (result : Except String Unit) :
    RecordsInv { s with registry := setStatus (.ofResult common.name result) s.registry } := by
  refine ⟨h.ticks, h.lagBlocks, h.lagThreshold, fun hall => h.probes (fun d hd hname => ?_),
    h.coveredTicks, h.coveredLags, h.coveredProbes⟩
  refine hall d (mem_setStatus_of_ne hd ?_) hname
  rw [hname, DependencyCheck.ofResult_name]
  cases common <;> decide

theorem RecordsInv.step (h : RecordsInv s) {a : ReadinessAction n}
    (hhides : s.HidesNothing minConfirmations a) (hst : s.step minConfirmations a = some t) :
    RecordsInv t := by
  cases a with
  | tick worker token result => exact Option.some.inj hst ▸ h.tick hhides
  | lag token targetBlock scannerBlock => exact Option.some.inj hst ▸ h.lag hhides
  | probe token result => exact Option.some.inj hst ▸ h.probe hhides
  | dependency common result => exact Option.some.inj hst ▸ h.dependency common result

end ReadinessSystem

/-- **Readiness covers every token**, in any interleaving of the reports of any
number of tokens in which no report hides another token's. -/
theorem ready_covers_tokens (n : ℕ) (minConfirmations : Fin n → ℕ)
    (as : List (ReadinessAction n)) (s : ReadinessSystem n)
    (hhides : StepsMeet (ReadinessSystem.step minConfirmations)
      (ReadinessSystem.HidesNothing minConfirmations) (ReadinessSystem.start n) as)
    (hrun : runSteps (ReadinessSystem.step minConfirmations) (ReadinessSystem.start n) as
      = some s) :
    s.CoversTokens := by
  have hinv : ReadinessSystem.RecordsInv s :=
    inv_of_run (fun _ _ _ h hP hst => h.step hP hst) (ReadinessSystem.recordsInv_start n) hhides hrun
  exact hinv.coversTokens

namespace TwoScanners

/-- How deep a payment has to be, for two tokens. -/
def minConfirmations : Fin 2 → ℕ := fun token => if token = 0 then 2 else 12

/-- Both collectors and both probes do well. -/
def others : List (ReadinessAction 2) :=
  [.probe 0 (.ok ()), .probe 1 (.ok ()), .tick .collectionCollector 0 (.ok ()),
    .tick .collectionCollector 1 (.ok ())]

/-- One scanner fails and recovers while the other is at its first tick. -/
def recovering : List (ReadinessAction 2) :=
  others ++ [.lag 0 110 100, .tick .paymentScanner 0 (.error "rpc unavailable: timeout"),
    .tick .paymentScanner 0 (.ok ()), .lag 1 130 110, .tick .paymentScanner 1 (.ok ())]

/-- One scanner fails, and then the other does well. -/
def failingHidden : List (ReadinessAction 2) :=
  others ++ [.tick .paymentScanner 0 (.error "rpc unavailable: timeout"),
    .tick .paymentScanner 1 (.ok ())]

end TwoScanners

open TwoScanners in
/-- A process that becomes ready when the scanner that failed has recovered. -/
theorem ready_covers_tokens_recovering :
    ∃ s, runSteps (ReadinessSystem.step minConfirmations) (ReadinessSystem.start 2) recovering
        = some s
      ∧ s.readiness.status = .ok ∧ s.CoversTokens := by
  have hready : (runSteps (ReadinessSystem.step minConfirmations) (ReadinessSystem.start 2)
      recovering).map (fun s => s.readiness.status) = some .ok := by decide
  have hhides : StepsMeet (ReadinessSystem.step minConfirmations)
      (ReadinessSystem.HidesNothing minConfirmations) (ReadinessSystem.start 2) recovering := by
    decide
  obtain ⟨s, hrun, hstatus⟩ := Option.map_eq_some_iff.mp hready
  exact ⟨s, hrun, hstatus, ready_covers_tokens 2 minConfirmations recovering s hhides hrun⟩

open TwoScanners in
/-- The process is ready, and the last tick of a scanner has failed. -/
theorem failing_scanner_hidden :
    ∃ s, runSteps (ReadinessSystem.step minConfirmations) (ReadinessSystem.start 2) failingHidden
        = some s
      ∧ ¬ s.CoversTokens := by
  have hfacts : (runSteps (ReadinessSystem.step minConfirmations) (ReadinessSystem.start 2)
      failingHidden).map (fun s => (s.readiness.status, (s.ticks .paymentScanner).byReporter 0))
      = some (.ok, some (.error "rpc unavailable: timeout")) := by decide
  obtain ⟨s, hrun, heq⟩ := Option.map_eq_some_iff.mp hfacts
  obtain ⟨hstatus, hlast⟩ := Prod.mk.inj heq
  refine ⟨s, hrun, fun hcovers => ?_⟩
  cases (hcovers hstatus 0).1 .paymentScanner _ hlast
