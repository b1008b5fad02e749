import Pay3.CollectorSystem
import Pay3.RpcRangeSource

/-!
# Asking for a receipt

A receipt is asked of one provider after another, and the first answer counts.
An answer of `null` says that the transaction is in no block. When no provider
answers, the request as a whole fails, with a message that names the method; the
lookup recognises its own method in the message and reports no receipt, as it
does for `null`. So `Ok(None)` has two grounds, and the collector, which replaces
a transaction whose receipt has been missing for long enough, cannot tell them
apart. Any other answer is read, and one that cannot be read is an error.
-/

/-! ## Receipts -/

/-- `RpcReceipt`. -/
structure RpcReceipt where
  transactionHash : String
  blockNumber : Option String
  blockHash : Option String
  status : Option String
  gasUsed : Option String
  deriving DecidableEq

section Parsing

variable (libs : RpcLibraries)

/-- The fields of `RpcReceipt`, each of its type. -/
def rpcReceipt (value : JsonValue) : Option RpcReceipt := do
  match ← value.structFields ["transactionHash", "blockNumber", "blockHash", "status",
      "gasUsed"] with
  | [transactionHash, blockNumber, blockHash, status, gasUsed] =>
    pure ⟨← transactionHash.asString, ← blockNumber.asOptionString, ← blockHash.asOptionString,
      ← status.asOptionString, ← gasUsed.asOptionString⟩
  | _ => none

/-- The status of a receipt, by its text. -/
def receiptStatus : Option String → Except RpcChainError TransactionStatus
  | some "0x1" | some "0X1" => .ok .success
  | some "0x0" | some "0X0" => .ok .reverted
  | some value => .error (.malformedRpcResponse ("unknown receipt.status " ++ value))
  | none => .error (.malformedRpcResponse "receipt.status is missing")

/-- **`parse_receipt`.** The gas used has to be a number, if it is there; nothing
else is done with it. -/
def parseReceipt (value : JsonValue) : Except RpcChainError TxReceipt := do
  let receipt ← orError (rpcReceipt value) (.malformedRpcResponse (libs.serdeError value))
  let txHash ← parseFixed 32 "tx hash" receipt.transactionHash "receipt.transactionHash"
  let blockNumber ← parseRequiredHexU64 receipt.blockNumber "receipt.blockNumber"
  let blockHash ← parseRequiredBlockHash receipt.blockHash "receipt.blockHash"
  let status ← receiptStatus receipt.status
  match receipt.gasUsed with
  | some gasUsed =>
    let _ ← parseHexU64 gasUsed "receipt.gasUsed"
    pure ⟨txHash, ⟨blockNumber, blockHash⟩, status⟩
  | none => pure ⟨txHash, ⟨blockNumber, blockHash⟩, status⟩

/-! ## The lookup -/

/-- The method a receipt is asked for with. -/
def receiptMethod : String := "eth_getTransactionReceipt"

/-- `is_transient_receipt_lookup_error`. -/
def isTransientReceiptLookupError : RpcChainError → Bool
  | .rpcUnavailable message => occursIn (utf8 receiptMethod) (utf8 message)
  | _ => false

/-- **`transaction_receipt`**; the hash that is asked for is part of the request. -/
def transactionReceipt (call : PoolCall) : Except RpcChainError (Option TxReceipt) :=
  match (call.manager.requestFirstSuccess call.answers call.now receiptMethod).1 with
  | .error error => if isTransientReceiptLookupError error then .ok none else .error error
  | .ok (_, .null) => .ok none
  | .ok (_, value) => (parseReceipt libs value).map some

end Parsing

/-- Where `check_outbound_receipt` goes after the lookup; an error ends the
tick. -/
def checkOutboundReceipt (cfg : CollectorConfig) (now : Timestamp) (c : Uuid)
    (tx : OutboundTxRecord) : Except RpcChainError (Option TxReceipt) → CollectorPc
  | .error _ => .idle
  | .ok receipt => CollectorState.afterReceipt cfg now c tx receipt

/-! ## What a missing receipt means -/

namespace PoolCall

/-- The answer that counts is `null`. -/
def AnsweredNull (call : PoolCall) : Prop :=
  ∃ i ∈ call.firstAnswering, (call.answers i).response = .ok .null

/-- No provider that is asked answers. -/
def Unanswered (call : PoolCall) : Prop := call.firstAnswering = none

end PoolCall

theorem utf8_append (s t : String) : utf8 (s ++ t) = utf8 s ++ utf8 t := by
  unfold utf8
  simp

/-- A text occurs between two others. -/
theorem occursIn_append (before part after : List UInt8) :
    occursIn part (before ++ (part ++ after)) = true := by
  have hhere : part.isPrefixOf (part ++ after) = true :=
    List.isPrefixOf_iff_prefix.mpr (List.prefix_append part after)
  induction before with
  | nil =>
    rw [List.nil_append]
    cases htext : part ++ after with
    | nil => rw [(List.append_eq_nil_iff.mp htext).1]; rfl
    | cons byte rest =>
      unfold occursIn
      rw [← htext, hhere, Bool.true_or]
  | cons byte before ih =>
    show (part.isPrefixOf _ || occursIn part (before ++ (part ++ after))) = true
    rw [ih, Bool.or_true]

namespace RpcProviderManager

/-- When no candidate answers, the request fails with a message that names its
method. -/
theorem requestFirstSuccessFrom_eq_error {answers : ℕ → Answer} {method : String}
    {candidates : List ℕ} {m : RpcProviderManager} {errors : List String} {error : RpcChainError}
    (h : (requestFirstSuccessFrom answers method m errors candidates).1 = .error error) :
    candidates.find? (fun i => (answers i).response.toOption.isSome) = none
      ∧ ∃ rest, error
        = .rpcUnavailable ("all RPC providers failed " ++ method ++ ": " ++ rest) := by
  induction candidates generalizing m errors with
  | nil => exact ⟨rfl, "; ".intercalate errors, (Except.error.inj h).symm⟩
  | cons i rest ih =>
    unfold requestFirstSuccessFrom at h
    split at h
    · cases h
    · rename_i e hresp
      obtain ⟨hnone, hmessage⟩ := ih h
      refine ⟨?_, hmessage⟩
      rw [List.find?_cons_of_neg (by rw [hresp]; exact Bool.false_ne_true)]
      exact hnone

end RpcProviderManager

section Lookup

variable {libs : RpcLibraries} {call : PoolCall}

/-- A request for a receipt that fails is a transient error, however it failed. -/
theorem transient_of_failed {error : RpcChainError}
    (h : (call.manager.requestFirstSuccess call.answers call.now receiptMethod).1
      = .error error) :
    call.Unanswered ∧ isTransientReceiptLookupError error = true := by
  obtain ⟨hnone, rest, rfl⟩ := RpcProviderManager.requestFirstSuccessFrom_eq_error h
  refine ⟨hnone, ?_⟩
  show occursIn (utf8 receiptMethod) (utf8 _) = true
  rw [String.append_assoc, utf8_append, utf8_append, List.append_assoc]
  exact occursIn_append _ _ _

/-- **No receipt**, on one of two grounds. -/
theorem transactionReceipt_eq_none (h : transactionReceipt libs call = .ok none) :
    call.AnsweredNull ∨ call.Unanswered := by
  unfold transactionReceipt at h
  split at h
  · rename_i error herror
    exact Or.inr (transient_of_failed herror).1
  · rename_i providerId hvalue
    obtain ⟨i, hi, hresp⟩ := RpcProviderManager.requestFirstSuccess_eq_ok hvalue
    exact Or.inl ⟨i, hi, hresp⟩
  · obtain ⟨_, -, hsome⟩ := Except.map_eq_ok.mp h
    cases hsome

/-- The answer that counts is the first there is. -/
theorem requestFirstSuccess_of_firstAnswering {call : PoolCall} {method : String} {i : ℕ}
    {value : JsonValue} (hi : call.firstAnswering = some i)
    (hvalue : (call.answers i).response = .ok value) :
    ∃ providerId, (call.manager.requestFirstSuccess call.answers call.now method).1
      = .ok (providerId, value) := by
  cases hresult : (call.manager.requestFirstSuccess call.answers call.now method).1 with
  | error e =>
    have hnone := (RpcProviderManager.requestFirstSuccessFrom_eq_error hresult).1
    rw [PoolCall.firstAnswering, hnone] at hi
    cases hi
  | ok answer =>
    obtain ⟨j, hj, hresp⟩ := RpcProviderManager.requestFirstSuccess_eq_ok hresult
    obtain rfl := Option.some.inj (hi.symm.trans hj)
    rw [← Except.ok.inj (hresp.symm.trans hvalue)]
    exact ⟨answer.1, rfl⟩

/-- The answer that counts, when it is not `null`, is read. -/
theorem transactionReceipt_eq_parse {i : ℕ} {value : JsonValue} (hi : call.firstAnswering = some i)
    (hresp : (call.answers i).response = .ok value) (hnull : value ≠ .null) :
    transactionReceipt libs call = (parseReceipt libs value).map some := by
  obtain ⟨providerId, hanswer⟩ := requestFirstSuccess_of_firstAnswering hi hresp
  unfold transactionReceipt
  rw [hanswer]
  cases value with
  | null => exact absurd rfl hnull
  | _ => rfl

/-- **No receipt is reported** on these two grounds: the `null` that counts is
taken for it, and so is a request that failed. -/
theorem transactionReceipt_eq_none_iff :
    transactionReceipt libs call = .ok none ↔ call.AnsweredNull ∨ call.Unanswered := by
  refine ⟨transactionReceipt_eq_none, fun h => ?_⟩
  obtain ⟨i, hi, hresp⟩ | hnone := h
  · obtain ⟨providerId, hanswer⟩ := requestFirstSuccess_of_firstAnswering hi hresp
    unfold transactionReceipt
    rw [hanswer]
  · cases hresult : (call.manager.requestFirstSuccess call.answers call.now receiptMethod).1 with
    | ok answer =>
      obtain ⟨j, hj, -⟩ := RpcProviderManager.requestFirstSuccess_eq_ok hresult
      cases hnone.symm.trans hj
    | error error =>
      unfold transactionReceipt
      rw [hresult]
      exact if_pos (transient_of_failed hresult).2

end Lookup

/-- **What a missing receipt means.** The lookup reports no receipt exactly if the
answer that counts is `null` or no provider answered at all; any other answer is
read, as a receipt or as an error. And a receipt check goes on to a replacement
only when the lookup reported no receipt and the transaction was handed to the
node long enough ago. -/
theorem missing_receipt_null_or_unanswered (libs : RpcLibraries) (call : PoolCall)
    (cfg : CollectorConfig) (now : Timestamp) (c : Uuid) (tx : OutboundTxRecord) :
    (transactionReceipt libs call = .ok none ↔ call.AnsweredNull ∨ call.Unanswered)
      ∧ (∀ i value, call.firstAnswering = some i → (call.answers i).response = .ok value
          → value ≠ .null
          → transactionReceipt libs call = (parseReceipt libs value).map some)
      ∧ (checkOutboundReceipt cfg now c tx (transactionReceipt libs call)
            = .receiptMissing c tx
          → (call.AnsweredNull ∨ call.Unanswered) ∧ outboundReplacementDue cfg now tx = true) := by
  refine ⟨transactionReceipt_eq_none_iff, fun i value hi hresp hnull =>
    transactionReceipt_eq_parse hi hresp hnull, fun h => ?_⟩
  cases hlookup : transactionReceipt libs call with
  | error e =>
    rw [hlookup] at h
    cases h
  | ok receipt =>
    rw [hlookup] at h
    cases receipt with
    | none =>
      refine ⟨transactionReceipt_eq_none hlookup, ?_⟩
      by_contra hdue
      rw [checkOutboundReceipt, CollectorState.afterReceipt, if_neg hdue] at h
      cases h
    | some r =>
      simp only [checkOutboundReceipt, CollectorState.afterReceipt] at h
      split_ifs at h
      split at h <;> cases h

namespace Outage

/-- A pool of one provider, which has answered so far. -/
def manager : RpcProviderManager where
  expectedChainId := 1
  minProviderCount := 1
  providers := [⟨"rpc-1", ⟨0, none⟩⟩]
  roundRobinCounter := 0
  enough := by decide
  nonempty := by simp

/-- A request that the provider turns away. -/
def call : PoolCall where
  manager := manager
  now := 0
  answers := fun _ => ⟨.error (.rpcUnavailable
    "provider rpc-1 returned HTTP 503 Service Unavailable for eth_getTransactionReceipt"), 1⟩

end Outage

/-- Nothing has been answered, and the lookup reports no receipt. A transaction
that is due is then replaced. -/
theorem no_receipt_in_outage :
    transactionReceipt plainLibraries Outage.call = .ok none
      ∧ (∀ i, (Outage.call.answers i).response ≠ .ok .null)
      ∧ ∀ cfg now c tx, outboundReplacementDue cfg now tx = true
        → checkOutboundReceipt cfg now c tx (transactionReceipt plainLibraries Outage.call)
          = .receiptMissing c tx := by
  have hlookup : transactionReceipt plainLibraries Outage.call = .ok none := by decide +kernel
  refine ⟨hlookup, fun i h => (by cases h), fun cfg now c tx hdue => ?_⟩
  rw [hlookup, checkOutboundReceipt, CollectorState.afterReceipt, if_pos hdue]
