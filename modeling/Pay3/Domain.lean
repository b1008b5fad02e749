import Mathlib.Algebra.Group.Nat.Defs
import Mathlib.Data.Nat.Basic

/-!
# The vocabulary of the ledger

Identifiers, hashes and amounts keep their widths: an address is 160 bits, a
hash and a raw token amount 256, an identifier 128. A `u64` of the source is
a `ℕ`, and where the source converts it to the signed 64-bit integer the
database stores, the model makes the same range check (`u64ToI64`). A time is
a number of microseconds, the resolution of the database.

The status columns are enumerations, as they are in the source once a row has
been read back. An error keeps the constructor, the field and the text it is
raised with.
-/

/-- A row identifier. -/
abbrev Uuid := BitVec 128

/-- An account address. -/
abbrev EvmAddress := BitVec 160

-- lists of identifiers and of addresses are searched by these in every module
instance : LawfulBEq Uuid := instLawfulBEq

instance : LawfulBEq EvmAddress := instLawfulBEq

/-- A transaction hash. -/
abbrev TxHash := BitVec 256

/-- A block hash. -/
abbrev BlockHash := BitVec 256

/-- A raw token amount, a nonce or a fee: an unsigned 256-bit integer. -/
abbrev RawAmount := BitVec 256

/-- A time in microseconds. -/
abbrev Timestamp := Int

/-- A number of seconds as a time span. -/
def seconds (n : ℕ) : Timestamp := (n : Int) * 1000000

/-- The last `n` hexadecimal digits of a number, in lower case. -/
def hexDigits : ℕ → ℕ → List Char
  | 0, _ => []
  | n + 1, value => hexDigits n (value / 16) ++ [Nat.digitChar (value % 16)]

/-- The hyphenated lower-case form of an identifier, as error texts show it. -/
def Uuid.hyphenated (id : Uuid) : String :=
  let digits := hexDigits 32 id.toNat
  String.ofList (digits.take 8 ++ '-' :: (digits.drop 8).take 4 ++ '-' :: (digits.drop 12).take 4
    ++ '-' :: (digits.drop 16).take 4 ++ '-' :: digits.drop 20)

@[simp] theorem length_hexDigits (n value : ℕ) : (hexDigits n value).length = n := by
  induction n generalizing value with
  | zero => rfl
  | succ n ih => rw [hexDigits, List.length_append, ih, List.length_singleton]

/-- Digits determine the number they write. -/
theorem hexDigits_injective {n a b : ℕ} (h : hexDigits n a = hexDigits n b) :
    a % 16 ^ n = b % 16 ^ n := by
  induction n generalizing a b with
  | zero => rw [Nat.pow_zero, Nat.mod_one, Nat.mod_one]
  | succ n ih =>
    rw [hexDigits, hexDigits] at h
    obtain ⟨hinit, hlast⟩ := List.append_inj h (by rw [length_hexDigits, length_hexDigits])
    have hdigit : ∀ x < 16, ∀ y < 16, Nat.digitChar x = Nat.digitChar y → x = y := by decide
    have hlow : a % 16 = b % 16 := hdigit _ (Nat.mod_lt _ (by decide)) _ (Nat.mod_lt _ (by decide))
      (List.singleton_inj.mp hlast)
    rw [Nat.pow_succ', Nat.mod_mul, Nat.mod_mul, hlow, ih hinit]

/-- A value of so many bits is determined by its digits, when there are enough of them. -/
theorem hexDigits_toNat_injective {n w : ℕ} (hw : 2 ^ w ≤ 16 ^ n) {a b : BitVec w}
    (h : hexDigits n a.toNat = hexDigits n b.toNat) : a = b := by
  have hnat := hexDigits_injective h
  rw [Nat.mod_eq_of_lt (Nat.lt_of_lt_of_le a.isLt hw),
    Nat.mod_eq_of_lt (Nat.lt_of_lt_of_le b.isLt hw)] at hnat
  exact BitVec.eq_of_toNat_eq hnat

theorem hyphen_notMem_hexDigits (n value : ℕ) : '-' ∉ hexDigits n value := by
  induction n generalizing value with
  | zero => exact List.not_mem_nil
  | succ n ih =>
    have hdigit : ∀ x < 16, Nat.digitChar x ≠ '-' := by decide
    rw [hexDigits, List.mem_append, List.mem_singleton, not_or]
    exact ⟨ih _, (hdigit _ (Nat.mod_lt _ (by decide))).symm⟩

/-- The digits are what is left without the hyphens. -/
theorem filter_hyphenated (id : Uuid) :
    id.hyphenated.toList.filter (fun c => decide (c ≠ '-')) = hexDigits 32 id.toNat := by
  have hkeep : ∀ l, l ⊆ hexDigits 32 id.toNat → l.filter (fun c => decide (c ≠ '-')) = l := by
    intro l hl
    refine List.filter_eq_self.mpr (fun c hc => decide_eq_true ?_)
    rintro rfl
    exact hyphen_notMem_hexDigits 32 id.toNat (hl hc)
  have hdrop : ∀ k, (hexDigits 32 id.toNat).drop k ⊆ hexDigits 32 id.toNat :=
    fun k => List.drop_subset k _
  have htake : ∀ j k, ((hexDigits 32 id.toNat).drop k).take j ⊆ hexDigits 32 id.toNat :=
    fun j k _ hx => hdrop k (List.take_subset j _ hx)
  have hjoin : ∀ j k, ((hexDigits 32 id.toNat).drop k).take j ++ (hexDigits 32 id.toNat).drop (k + j)
      = (hexDigits 32 id.toNat).drop k := by
    intro j k
    rw [← List.drop_drop, List.take_append_drop]
  unfold Uuid.hyphenated
  simp only [String.toList_ofList, List.filter_append, List.filter_cons_of_neg, ne_eq,
    not_true_eq_false, decide_false, Bool.false_eq_true, not_false_eq_true, List.append_assoc]
  rw [hkeep _ (List.take_subset 8 _), hkeep _ (htake 4 8), hkeep _ (htake 4 12), hkeep _ (htake 4 16),
    hkeep _ (hdrop 20), hjoin 4 16, hjoin 4 12, hjoin 4 8, List.take_append_drop]

/-- **An identifier is determined by its text.** -/
theorem Uuid.hyphenated_injective {a b : Uuid} (h : a.hyphenated = b.hyphenated) : a = b := by
  have hdigits : hexDigits 32 a.toNat = hexDigits 32 b.toNat := by
    rw [← filter_hyphenated a, ← filter_hyphenated b, h]
  have hmod := hexDigits_injective hdigits
  have ha : a.toNat < 16 ^ 32 := lt_of_lt_of_eq a.isLt (by decide)
  have hb : b.toNat < 16 ^ 32 := lt_of_lt_of_eq b.isLt (by decide)
  rw [Nat.mod_eq_of_lt ha, Nat.mod_eq_of_lt hb] at hmod
  exact BitVec.eq_of_toNat_eq hmod

/-! ## Errors -/

/-- What the database itself refuses. -/
inductive DbError
  | uniqueViolation (constraint : String)
  | checkViolation (constraint : String)
  | foreignKeyViolation (constraint : String)
  /-- An exception raised by a trigger. -/
  | raised (message : String)
  | numericFieldOverflow (column : String)
  | rowNotFound
  deriving DecidableEq, Repr

/-- **The errors of the repositories.** -/
inductive RepositoryError
  | database (error : DbError)
  | invalidArgument (field message : String)
  | idempotencyConflict (resource key : String) (existingId : Option Uuid)
  | notFound (entity key : String)
  | cursorCasMismatch (chainId : ℕ) (tokenAddress : EvmAddress) (workerId : String)
      (expectedLastScannedBlock actualLastScannedBlock : ℕ)
      (expectedSeenKvReorgEpoch actualSeenKvReorgEpoch : ℕ) (actualLeaseOwner : Option String)
  | cursorNotFound (chainId : ℕ) (tokenAddress : EvmAddress)
  | stalePaymentMatch (orderId : Uuid) (txHash : TxHash) (logIndex : ℕ)
  | orderNotFoundForRecompute (orderIds : List Uuid)
  | integerOutOfRange (field : String)
  | invalidDbValue (column value reason : String)
  | invalidPersistedState (message : String)
  | invariantViolation (reason : String)
  | derivationExhausted
  deriving DecidableEq, Repr

/-- The largest value of a signed 64-bit integer. -/
def i64Max : ℕ := 9223372036854775807

/-- The largest value of an unsigned 64-bit integer. -/
def u64Max : ℕ := 18446744073709551615

/-- The bound of a `numeric(78, 0)` column. -/
def numeric78Bound : ℕ := 10 ^ 78

/-- **`i64::try_from`**: the value, if it fits a signed 64-bit integer. -/
def toI64 (value : ℕ) (e : RepositoryError) : Except RepositoryError ℕ :=
  if value ≤ i64Max then .ok value else .error e

theorem toI64_eq_ok {value n : ℕ} {e : RepositoryError} :
    toI64 value e = .ok n ↔ value ≤ i64Max ∧ n = value := by
  unfold toI64
  by_cases h : value ≤ i64Max
  · rw [if_pos h]
    exact ⟨fun hn => ⟨h, (Except.ok.inj hn).symm⟩, fun hn => by rw [hn.2]⟩
  · rw [if_neg h]
    exact ⟨fun hn => (by cases hn), fun hn => absurd hn.1 h⟩

/-- `u64_to_i64` of the collection and outbound repositories. -/
abbrev u64ToI64 (value : ℕ) (field : String) : Except RepositoryError ℕ :=
  toI64 value (.integerOutOfRange field)

/-- `u64_to_i64` of the payment repositories, which reports the range error as
an invalid argument. -/
abbrev paymentU64ToI64 (value : ℕ) (field : String) : Except RepositoryError ℕ :=
  toI64 value (.invalidArgument field "value exceeds PostgreSQL bigint range")

/-! ## Status columns -/

/-- `orders.status`. -/
inductive OrderStatus
  | pending | partial_ | confirming | paid | expired
  deriving DecidableEq, Repr

/-- `payments.match_status`. -/
inductive PaymentMatchStatus
  | onTime | late | outsideWindow
  deriving DecidableEq, Repr

/-- `payments.chain_status`. -/
inductive PaymentChainStatus
  | observed | confirmed | orphaned
  deriving DecidableEq, Repr

/-- `collections.status`. -/
inductive CollectionRecordStatus
  | queued | transferring | confirming | confirmed | failed | dropped | replacing | replaced
  deriving DecidableEq, Repr

/-- `outbound_transactions.purpose`. -/
inductive OutboundTxPurpose
  | collect
  deriving DecidableEq, Repr

/-- `outbound_transactions.status`. -/
inductive OutboundTxStatus
  | signed | broadcast | confirmed | failed | dropped | replaced
  deriving DecidableEq, Repr

/-- The name `{:?}` prints for the status of an outbound transaction. -/
def OutboundTxStatus.debugName : OutboundTxStatus → String
  | .signed => "Signed"
  | .broadcast => "Broadcast"
  | .confirmed => "Confirmed"
  | .failed => "Failed"
  | .dropped => "Dropped"
  | .replaced => "Replaced"

/-- The outcome a receipt reports. -/
inductive TransactionStatus
  | success | reverted
  deriving DecidableEq, Repr

/-- **The statuses a collection ends in** through the receipt check. -/
def CollectionRecordStatus.isTerminal : CollectionRecordStatus → Bool
  | .confirmed | .failed => true
  | _ => false

/-- The statuses the index `one_active_collection_per_child` covers. -/
def CollectionRecordStatus.isIndexedActive : CollectionRecordStatus → Bool
  | .queued | .transferring | .confirming => true
  | _ => false

/-- The statuses `select_active_collection_by_child_account` looks for. -/
def CollectionRecordStatus.isActive : CollectionRecordStatus → Bool
  | .queued | .transferring | .replacing | .confirming => true
  | _ => false

/-- The statuses the index `outbound_active_nonce_idx` covers. -/
def OutboundTxStatus.holdsNonce : OutboundTxStatus → Bool
  | .signed | .broadcast | .confirmed => true
  | _ => false

/-- The statuses the three `mark_*` updates start from. -/
def OutboundTxStatus.isInFlight : OutboundTxStatus → Bool
  | .signed | .broadcast => true
  | _ => false

/-! ## Blocks and confirmations -/

/-- A block named by its number and hash. -/
structure ChainBlockRef where
  number : ℕ
  hash : BlockHash
  deriving DecidableEq, Repr

/-- The confirmations a block has under a head: the block itself counts. -/
def ChainBlockRef.confirmationsAgainst (b head : ChainBlockRef) : Option ℕ :=
  if head.number < b.number then none else some (head.number - b.number + 1)

/-- **Whether a block has the required confirmations** under a head. -/
def ChainBlockRef.hasConfirmations (b head : ChainBlockRef) (required : ℕ) : Bool :=
  required == 0 || (b.confirmationsAgainst head).any (fun n => required ≤ n)

/-- A block has the confirmations required of it when none is, or when the
head is far enough above it. -/
theorem ChainBlockRef.hasConfirmations_iff {b head : ChainBlockRef} {required : ℕ} :
    b.hasConfirmations head required = true
      ↔ required = 0 ∨ b.number + required ≤ head.number + 1 := by
  unfold hasConfirmations confirmationsAgainst
  by_cases h0 : required = 0
  · simp [h0]
  · by_cases h : head.number < b.number
    · rw [if_pos h]
      simp only [Option.any_none, Bool.or_false, beq_iff_eq, h0, false_or, false_iff]
      omega
    · rw [if_neg h]
      simp only [Option.any_some, Bool.or_eq_true, beq_iff_eq, h0, false_or, decide_eq_true_eq]
      omega

/-! ## Derivation segments -/

/-- The largest index of a derivation path. -/
def maxDerivationIndex : ℕ := 2 ^ 31 - 1

/-- **The three indices of a derivation path**, each in range: the source
refuses to build any other, and so does the table. -/
structure DerivationSegment where
  accountIndex : ℕ
  changeIndex : ℕ
  addressIndex : ℕ
  account_le : accountIndex ≤ maxDerivationIndex
  change_le : changeIndex ≤ maxDerivationIndex
  address_le : addressIndex ≤ maxDerivationIndex
  deriving DecidableEq
