import Pay3.CollectionCalldata

/-!
# The nonces of signed sweeps

A token counts the meta-transactions and the permits of an account, and checks
a signature against a message that holds the count. The program signs every
message with the count nought.

So of the sweeps of one child account, one after the other, a signature is good
as long as no sweep before it has succeeded. It is then the token, not the
program, that stops the second one.
-/

namespace CollectionStrategyConfig

/-- The strategies whose messages hold a count. -/
def countsNonces : CollectionStrategyConfig → Bool
  | .polygonMetaTx _ _ _ | .eip2612 _ _ _ => true
  | _ => false

/-- The count of the token for an account. -/
def contractNonce (strategy : CollectionStrategyConfig) (s : Token.State) (child : EvmAddress) : ℕ :=
  match strategy with
  | .polygonMetaTx _ _ _ => s.metaNonces child
  | .eip2612 _ _ _ => s.permitNonces child
  | _ => 0

/-- **The message the token checks the signature against.** -/
def contractMessage (strategy : CollectionStrategyConfig) (s : Token.State) (c : CollectionRecord)
    (amount : RawAmount) (now : UInt64) : Option Token.Message :=
  match strategy with
  | .polygonMetaTx _ _ _ => some (.metaTransaction (s.metaNonces c.fromAddress) c.fromAddress
      (erc20TransferData c.toAddress amount))
  | .eip2612 _ _ relayer => some (.permit c.fromAddress relayer.address amount
      (s.permitNonces c.fromAddress) (wordOfU64 (validBefore now)))
  | _ => none

end CollectionStrategyConfig

/-- The count in a message. -/
def Token.Message.nonce? : Token.Message → Option ℕ
  | .metaTransaction nonce _ _ => some nonce
  | .permit _ _ _ nonce _ => some nonce
  | .transferWithAuthorization _ _ _ _ _ _ => none

section Sweeps

variable {ε : Type} (keccak256 : List UInt8 → BitVec 256)
  (ecrecover : BitVec 256 → TypedSignature → Option EvmAddress)
  (signDigest : String → String → BitVec 256 → Except ε TypedSignature)
  (strategy : CollectionStrategyConfig) (d : Token.Domain)

/-- **A collection that was signed**, and when it is mined. -/
structure SignedSweep where
  job : CollectionJob
  amount : RawAmount
  now : UInt64
  data : List UInt8
  blockTime : ℕ
  built : buildCollectionCalldata keccak256 signDigest strategy job amount now = .ok data

variable {keccak256 signDigest strategy}

/-- What the token makes of it. -/
def SignedSweep.attempt (x : SignedSweep keccak256 signDigest strategy) (s : Token.State) :
    Option Token.State :=
  s.execute keccak256 ecrecover d x.blockTime (payerAddress strategy x.job.collection) x.data

/-- **The token after some sweeps**, each mined before the next is signed. -/
def stateAfter (s : Token.State) : List (SignedSweep keccak256 signDigest strategy) → Token.State
  | [] => s
  | x :: rest => stateAfter ((x.attempt ecrecover d s).getD s) rest

/-- **How many of them succeeded.** -/
def succeeded (s : Token.State) : List (SignedSweep keccak256 signDigest strategy) → ℕ
  | [] => 0
  | x :: rest =>
    match x.attempt ecrecover d s with
    | some s' => succeeded s' rest + 1
    | none => succeeded s rest

/-- **The nonce that was signed is the nonce of the token**, which accepts the
signature. -/
def SignedSweep.NonceFollows (x : SignedSweep keccak256 signDigest strategy) (s : Token.State) :
    Prop :=
  ∃ m, strategy.message keccak256 x.job.collection x.amount x.now = some m
    ∧ m.nonce? = some (strategy.contractNonce s x.job.collection.fromAddress)
    ∧ ∃ sig m', Token.decode x.data
        = some (strategy.call keccak256 x.job.collection x.amount x.now sig)
      ∧ strategy.contractMessage s x.job.collection x.amount x.now = some m'
      ∧ Token.Signed keccak256 ecrecover d m' sig x.job.collection.fromAddress

end Sweeps

section Runs

variable {ε : Type} {keccak256 : List UInt8 → BitVec 256}
  {ecrecover : BitVec 256 → TypedSignature → Option EvmAddress}
  {signDigest : String → String → BitVec 256 → Except ε TypedSignature}
  {strategy : CollectionStrategyConfig} {d : Token.Domain} {s s' : Token.State}

/-- The signed nonce is nought. -/
theorem nonce_of_message (keccak256 : List UInt8 → BitVec 256)
    (hcounts : strategy.countsNonces = true) (c : CollectionRecord) (amount : RawAmount)
    (now : UInt64) :
    ∃ m, strategy.message keccak256 c amount now = some m ∧ m.nonce? = some 0 := by
  cases strategy with
  | polygonMetaTx _ _ _ => exact ⟨_, rfl, rfl⟩
  | eip2612 _ _ _ => exact ⟨_, rfl, rfl⟩
  | _ => cases hcounts

/-- It is the message the token checks, while the token has counted none. -/
theorem contractMessage_of_zero (keccak256 : List UInt8 → BitVec 256) {c : CollectionRecord}
    {amount : RawAmount} {now : UInt64} (hcounts : strategy.countsNonces = true)
    (hzero : strategy.contractNonce s c.fromAddress = 0) :
    strategy.contractMessage s c amount now = strategy.message keccak256 c amount now := by
  cases strategy with
  | polygonMetaTx _ _ _ =>
    show some (Token.Message.metaTransaction (s.metaNonces c.fromAddress) _ _) = _
    rw [show s.metaNonces c.fromAddress = 0 from hzero]
    rfl
  | eip2612 _ _ _ =>
    show some (Token.Message.permit _ _ _ (s.permitNonces c.fromAddress) _) = _
    rw [show s.permitNonces c.fromAddress = 0 from hzero]
    rfl
  | _ => cases hcounts

/-- **A sweep that succeeds is counted.** -/
theorem contractNonce_of_attempt (hcounts : strategy.countsNonces = true)
    {x : SignedSweep keccak256 signDigest strategy} (h : x.attempt ecrecover d s = some s') :
    strategy.contractNonce s' x.job.collection.fromAddress
      = strategy.contractNonce s x.job.collection.fromAddress + 1 := by
  obtain ⟨sig, hdecode, -⟩ := buildCollectionCalldata_eq_ok x.built
  unfold SignedSweep.attempt Token.State.execute at h
  rw [hdecode, Option.bind_some] at h
  cases strategy with
  | polygonMetaTx tokenName tokenVersion relayer =>
    replace h : (if _ then _ else _) = some s' := h
    split at h
    · rw [decode_erc20TransferData] at h
      obtain ⟨-, hnonces, -⟩ := Token.State.of_move h
      show s'.metaNonces x.job.collection.fromAddress = _
      rw [hnonces]
      exact Function.update_self _ _ _
    · cases h
  | eip2612 tokenName tokenVersion relayer =>
    replace h : Token.State.call keccak256 ecrecover d x.blockTime s _ (.permit _ _ _ _ _)
      = some s' := h
    rw [Token.State.call] at h
    split at h
    · obtain rfl := Option.some.inj h
      exact Function.update_self _ _ _
    · cases h
  | _ => cases hcounts

/-- **After any number of sweeps of a child account, the token has counted those
that succeeded.** -/
theorem contractNonce_stateAfter (ecrecover : BitVec 256 → TypedSignature → Option EvmAddress)
    (d : Token.Domain) (hcounts : strategy.countsNonces = true) {child : EvmAddress}
    {sweeps : List (SignedSweep keccak256 signDigest strategy)}
    (hchild : ∀ x ∈ sweeps, x.job.collection.fromAddress = child) (s : Token.State) :
    strategy.contractNonce (stateAfter ecrecover d s sweeps) child
      = strategy.contractNonce s child + succeeded ecrecover d s sweeps := by
  induction sweeps generalizing s with
  | nil => rfl
  | cons x rest ih =>
    have hx : x.job.collection.fromAddress = child := hchild x List.mem_cons_self
    have hrest := ih (fun y hy => hchild y (List.mem_cons_of_mem x hy))
    unfold stateAfter succeeded
    cases hattempt : x.attempt ecrecover d s with
    | none => exact hrest s
    | some s' =>
      have hcount := contractNonce_of_attempt hcounts hattempt
      rw [hx] at hcount
      show strategy.contractNonce (stateAfter ecrecover d s' rest) child
        = strategy.contractNonce s child + (succeeded ecrecover d s' rest + 1)
      rw [hrest s', hcount]
      omega

end Runs

/-- **In a sequence of sweeps of one child account, the nonce that is signed is the
one of the token exactly as long as no sweep has succeeded.** -/
theorem nonceFollows_iff {ε : Type} (keccak256 : List UInt8 → BitVec 256)
    (ecrecover : BitVec 256 → TypedSignature → Option EvmAddress)
    (signDigest : String → String → BitVec 256 → Except ε TypedSignature)
    (strategy : CollectionStrategyConfig) (d : Token.Domain) (child : EvmAddress)
    (sweeps : List (SignedSweep keccak256 signDigest strategy)) (s : Token.State)
    (hcounts : strategy.countsNonces = true) (hfresh : s.FreshFor child)
    (hchild : ∀ x ∈ sweeps, x.job.collection.fromAddress = child)
    (hverify : ∀ x ∈ sweeps, Verifies ecrecover signDigest x.job)
    (hdeployed : ∀ x ∈ sweeps, strategy.DeployedAs x.job.collection d) :
    ∀ before x after, sweeps = before ++ x :: after →
      strategy.contractNonce (stateAfter ecrecover d s before) child
          = succeeded ecrecover d s before
        ∧ (x.NonceFollows ecrecover d (stateAfter ecrecover d s before)
          ↔ succeeded ecrecover d s before = 0) := by
  rintro before x after rfl
  have hbefore : ∀ y ∈ before, y.job.collection.fromAddress = child :=
    fun y hy => hchild y (List.mem_append_left _ hy)
  have hx : x ∈ before ++ x :: after := List.mem_append_right _ List.mem_cons_self
  have hnone : strategy.contractNonce s child = 0 := by
    cases strategy with
    | polygonMetaTx _ _ _ => exact hfresh.2.1
    | eip2612 _ _ _ => exact hfresh.2.2
    | _ => rfl
  have hcount := contractNonce_stateAfter ecrecover d hcounts hbefore s
  rw [hnone, Nat.zero_add] at hcount
  refine ⟨hcount, ?_, fun hzero => ?_⟩
  · rintro ⟨m, hm, hnonce, -⟩
    obtain ⟨m', hm', hsigned⟩ := nonce_of_message keccak256 hcounts
      x.job.collection x.amount x.now
    obtain rfl := Option.some.inj (hm.symm.trans hm')
    rw [hsigned, hchild x hx, hcount] at hnonce
    exact (Option.some.inj hnonce).symm
  · rw [hzero] at hcount
    obtain ⟨m, hm, hnonce⟩ := nonce_of_message keccak256 hcounts
      x.job.collection x.amount x.now
    obtain ⟨sig, hdecode, hsigned⟩ := signed_of_calldata x.built (hverify x hx) (hdeployed x hx)
    rw [← hchild x hx] at hcount
    refine ⟨m, hm, by rw [hnonce, hcount], sig, m, hdecode, ?_, hsigned m hm⟩
    rw [contractMessage_of_zero keccak256 hcounts hcount, hm]

namespace SmallToken

/-- The permit for the collection, mined in the next block. -/
def first : SignedSweep keccak256 signDigest byPermit where
  job := job
  amount := 100
  now := now
  data := (buildCollectionCalldata keccak256 signDigest byPermit job 100 now).toOption.getD []
  blockTime := 1700000012
  built := by decide +kernel

/-- The same permit, mined when its deadline has passed. -/
def late : SignedSweep keccak256 signDigest byPermit := { first with blockTime := 1800000000 }

/-- A sweep of problem funds from the same child account. -/
def laterJob : CollectionJob :=
  { job with collection := { collection with id := 0xd2, toAddress := 0x7f } }

/-- The permit for it, signed when the first one is mined. -/
def second : SignedSweep keccak256 signDigest byPermit where
  job := laterJob
  amount := 100
  now := now + 30
  data := (buildCollectionCalldata keccak256 signDigest byPermit laterJob 100
    (now + 30)).toOption.getD []
  blockTime := 1700000042
  built := by decide +kernel

end SmallToken

open SmallToken in
/-- The nonce of the second sweep is the one of the token, when the first was too late. -/
theorem nonceFollows_of_first :
    second.NonceFollows ecrecover domain (stateAfter ecrecover domain state [late]) := by
  have hsweeps : ∀ x ∈ [late, second], x = late ∨ x = second := by
    intro x hx
    simpa using hx
  have hchild : ∀ x ∈ [late, second], x.job.collection.fromAddress = child := by
    intro x hx
    rcases hsweeps x hx with rfl | rfl <;> rfl
  have hdeployed : ∀ x ∈ [late, second], byPermit.DeployedAs x.job.collection domain := by
    intro x hx d' hd'
    rcases hsweeps x hx with rfl | rfl <;> exact Option.some.inj hd'
  have hnone : succeeded ecrecover domain state [late] = 0 := by decide +kernel
  have hfollows := nonceFollows_iff keccak256 ecrecover signDigest byPermit domain child
    [late, second] state rfl freshFor_state hchild (fun x hx => verifies_of_child (hchild x hx))
    hdeployed [late] second [] rfl
  exact hfollows.2.mpr hnone

open SmallToken in
/-- **That of the second is not**, once the first has succeeded. -/
theorem nonceFollows_fails :
    ¬ ∀ (ε : Type) (keccak256 : List UInt8 → BitVec 256)
      (ecrecover : BitVec 256 → TypedSignature → Option EvmAddress)
      (signDigest : String → String → BitVec 256 → Except ε TypedSignature)
      (strategy : CollectionStrategyConfig) (d : Token.Domain) (child : EvmAddress)
      (sweeps : List (SignedSweep keccak256 signDigest strategy)) (s : Token.State),
      strategy.countsNonces = true → s.FreshFor child →
      (∀ x ∈ sweeps, x.job.collection.fromAddress = child) →
      (∀ x ∈ sweeps, Verifies ecrecover signDigest x.job) →
      (∀ x ∈ sweeps, strategy.DeployedAs x.job.collection d) →
      ∀ (before : List (SignedSweep keccak256 signDigest strategy))
        (x : SignedSweep keccak256 signDigest strategy) after, sweeps = before ++ x :: after →
        x.NonceFollows ecrecover d (stateAfter ecrecover d s before) := by
  intro hall
  have hcounts : byPermit.countsNonces = true := rfl
  have hsweeps : ∀ x ∈ [first, second], x = first ∨ x = second := by
    intro x hx
    simpa using hx
  have hchild : ∀ x ∈ [first, second], x.job.collection.fromAddress = child := by
    intro x hx
    rcases hsweeps x hx with rfl | rfl <;> rfl
  have hdeployed : ∀ x ∈ [first, second], byPermit.DeployedAs x.job.collection domain := by
    intro x hx d' hd'
    rcases hsweeps x hx with rfl | rfl <;> exact Option.some.inj hd'
  obtain ⟨m, hm, hnonce, -⟩ := hall String keccak256 ecrecover signDigest byPermit domain child
    [first, second] state rfl freshFor_state hchild
    (fun x hx => verifies_of_child (hchild x hx)) hdeployed [first] second [] rfl
  obtain ⟨m', hm', hsigned⟩ := nonce_of_message keccak256 hcounts
    second.job.collection second.amount second.now
  obtain rfl := Option.some.inj (hm.symm.trans hm')
  have hone : succeeded ecrecover domain state [first] = 1 := by decide +kernel
  have hfirst : ∀ x ∈ [first], x.job.collection.fromAddress = child :=
    fun x hx => hchild x (List.mem_append_left [second] hx)
  have hcount := contractNonce_stateAfter ecrecover domain hcounts hfirst state
  rw [hone] at hcount
  rw [hsigned, show second.job.collection.fromAddress = child from rfl, hcount] at hnonce
  exact absurd (Option.some.inj hnonce) (by decide)
