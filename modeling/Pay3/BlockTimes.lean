import Pay3.PaymentMatching
import Pay3.Quantities

/-!
# The time of a block

A provider gives the time of a block as a number of seconds, in the range of `u64`. The
source casts it to `i64`, and hands it to a calendar that takes the years -9999 to 9999. A
number from `2 ^ 63` on becomes negative by the cast. Most of those the calendar refuses, but
the last 377705116800 are the seconds from the year -9999 to 1969: a block of one of these is
before every order's expiry, and whatever it pays is on time.
-/

/-- **The time is the provider's**, and what the matcher makes of a payment in the block is
what the provider's time says. -/
structure ExactTime (n : ℕ) (b : BlockHeader) : Prop where
  exact : b.timestamp = seconds n
  since_epoch : 0 ≤ b.timestamp
  on_time : ∀ (log : TransferLog) (c : PaymentWindowCandidate),
    log.blockTimestamp = b.timestamp → matchStatusTransfer log c = .onTime →
      seconds n ≤ c.expiresAt

/-- Nothing that is read before the time, and not the length of the time either, has the answer
refused. -/
def ReachesTime (number hash parentHash : Option String) (time : String) : Prop :=
  (∃ k, parseRequiredHexU64 number "block.number" = .ok k)
    ∧ (∃ h, parseRequiredBlockHash hash "block.hash" = .ok h)
    ∧ (∃ p, parseRequiredBlockHash parentHash "block.parentHash" = .ok p)
    ∧ quantityDigits time ≤ 16

section

variable {libs : RpcLibraries} {value : JsonValue} {providerId time : String}
  {number hash parentHash : Option String} {n : ℕ} {b : BlockHeader}

/-! ## The calendar -/

/-- **What the cast and the calendar make of a number of seconds.** -/
theorem fromUnixTimestamp_wrapI64 (hn : n < 2 ^ 64) {t : Int} :
    libs.fromUnixTimestamp (wrapI64 n) = .ok t
      ↔ (n ≤ 253402300799 ∧ t = seconds n)
        ∨ (2 ^ 64 ≤ n + 377705116800 ∧ t = seconds n - seconds (2 ^ 64)) := by
  rw [libs.fromUnixTimestamp_eq_ok]
  unfold InCalendar wrapI64 seconds
  split_ifs with hpositive
  · constructor
    · rintro ⟨hrange, rfl⟩
      exact Or.inl ⟨by omega, rfl⟩
    · rintro (⟨hsmall, rfl⟩ | ⟨hlast, -⟩)
      · exact ⟨by omega, rfl⟩
      · omega
  · rw [← Int.sub_mul]
    constructor
    · rintro ⟨hrange, rfl⟩
      exact Or.inr ⟨by omega, rfl⟩
    · rintro (⟨hsmall, -⟩ | ⟨hlast, rfl⟩)
      · omega
      · exact ⟨by omega, rfl⟩

/-! ## The block -/

/-- A quantity is read as the time if it is short enough. -/
theorem parseRequiredHexU64_time (htime : hexQuantity time = some n) {k : ℕ} {field : String} :
    parseRequiredHexU64 (some time) field = .ok k ↔ quantityDigits time ≤ 16 ∧ k = n := by
  obtain ⟨hex, hstrip, -⟩ := Option.bind_eq_some_iff.mp htime
  have hplus : hex.head? ≠ some 43 := by
    intro hhead
    obtain ⟨digits, rfl⟩ := List.head?_eq_some_iff.mp hhead
    rw [hexQuantity_of_plus hstrip] at htime
    cases htime
  show parseHexU64 time field = .ok k ↔ _
  rw [parseHexU64_eq_ok_iff hstrip hplus, htime, Option.some.injEq, and_comm, eq_comm]

/-- **The time of a block that is read** is what the calendar says. -/
theorem exists_parseBlock_iff (hvalue : rpcBlock value = some [number, hash, parentHash, some time])
    (htime : hexQuantity time = some n) {t : Timestamp} :
    (∃ b, parseBlock libs value providerId = .ok b ∧ b.block.timestamp = t)
      ↔ ReachesTime number hash parentHash time ∧ libs.fromUnixTimestamp (wrapI64 n) = .ok t := by
  unfold parseBlock
  rw [hvalue]
  constructor
  · rintro ⟨b, hb, rfl⟩
    obtain ⟨k, hk, hb⟩ := Except.bind_eq_ok.mp hb
    obtain ⟨h, hh, hb⟩ := Except.bind_eq_ok.mp hb
    obtain ⟨p, hp, hb⟩ := Except.bind_eq_ok.mp hb
    obtain ⟨secs, hsecs, hb⟩ := Except.bind_eq_ok.mp hb
    obtain ⟨t, ht, hb⟩ := Except.bind_eq_ok.mp hb
    obtain ⟨hdigits, rfl⟩ := (parseRequiredHexU64_time htime).mp hsecs
    rw [← Except.pure_eq_ok.mp hb]
    exact ⟨⟨⟨k, hk⟩, ⟨h, hh⟩, ⟨p, hp⟩, hdigits⟩, Except.mapError_eq_ok.mp ht⟩
  · rintro ⟨⟨⟨k, hk⟩, ⟨h, hh⟩, ⟨p, hp⟩, hdigits⟩, ht⟩
    refine ⟨⟨providerId, ⟨k, h, p, t⟩⟩, ?_, rfl⟩
    refine Except.bind_eq_ok.mpr ⟨k, hk, Except.bind_eq_ok.mpr ⟨h, hh, Except.bind_eq_ok.mpr
      ⟨p, hp, Except.bind_eq_ok.mpr ⟨n, (parseRequiredHexU64_time htime).mpr ⟨hdigits, rfl⟩, ?_⟩⟩⟩⟩
    exact Except.bind_eq_ok.mpr ⟨t, Except.mapError_eq_ok.mpr ht, rfl⟩

theorem ExactTime.of_eq (h : b.timestamp = seconds n) : ExactTime n b where
  exact := h
  since_epoch := by
    rw [h]
    exact mul_nonneg (Int.natCast_nonneg n) (by decide)
  on_time := by
    intro log c hlog hstatus
    unfold matchStatusTransfer at hstatus
    split_ifs at hstatus with hwindow
    rw [← h, ← hlog]
    exact hwindow.2

/-- **Block times are exact unless the number of seconds is among the last of `u64`**, in an
answer that is refused for nothing else. -/
theorem blockTimes_exact_iff (libs : RpcLibraries) (value : JsonValue)
    (providerId : String) (number hash parentHash : Option String) (time : String) (n : ℕ)
    (hvalue : rpcBlock value = some [number, hash, parentHash, some time])
    (htime : hexQuantity time = some n) (hn : n < 2 ^ 64) :
    (∀ b, parseBlock libs value providerId = .ok b → ExactTime n b.block)
      ↔ n + 377705116800 < 2 ^ 64 ∨ ¬ ReachesTime number hash parentHash time := by
  constructor
  · intro hexact
    by_contra hwraps
    obtain ⟨hlast, hreaches⟩ := not_or.mp hwraps
    obtain ⟨b, hb, ht⟩ := (exists_parseBlock_iff hvalue htime).mpr
      ⟨not_not.mp hreaches, (fromUnixTimestamp_wrapI64 hn).mpr (Or.inr ⟨not_lt.mp hlast, rfl⟩)⟩
    have hsince : (0 : Int) ≤ (n : Int) * 1000000 - (2 ^ 64 : ℕ) * 1000000 := ht ▸ (hexact b hb).since_epoch
    push_cast at hsince
    omega
  · intro hcond b hb
    obtain ⟨hreaches, ht⟩ := (exists_parseBlock_iff hvalue htime).mp ⟨b, hb, rfl⟩
    obtain ⟨-, ht⟩ | ⟨hlast, -⟩ := (fromUnixTimestamp_wrapI64 hn).mp ht
    · exact .of_eq ht
    · exact absurd hcond (not_or.mpr ⟨not_lt.mpr hlast, not_not.mpr hreaches⟩)

end

/-! ## A block of the last second -/

namespace LastSecond

/-- A hash as a provider writes it. -/
def hashText : String := "0x" ++ String.ofList (hexDigits 64 0xa1)

/-- Block 1, at a time. -/
def answer (time : String) : JsonValue :=
  .object [("number", .string "0x1"), ("hash", .string hashText),
    ("parentHash", .string hashText), ("timestamp", .string time)]

/-- The header of the block, at a time. -/
def header (t : Timestamp) : BlockHeader := ⟨1, 0xa1, 0xa1, t⟩

/-- A payment in the block. -/
def log (t : Timestamp) : TransferLog := ⟨⟨⟨0x70, 0x77, 0, 0x88, 0xc1, 100⟩, 1, 0xa1⟩, 1, t⟩

/-- An order whose time is up fifteen minutes after the epoch. -/
def candidate : PaymentWindowCandidate :=
  ⟨0xb1, 0xa1, 0xc1, 1, 0x70, 100, 0, .pending, ⟨0, 0x90⟩, seconds 900, seconds 1800⟩

/-- A block of the year 2026. -/
theorem blockTimes_exact_in_2026 :
    rpcBlock (answer "0x6a000000")
        = some [some "0x1", some hashText, some hashText, some "0x6a000000"]
      ∧ ∀ b, parseBlock plainLibraries (answer "0x6a000000") "rpc-1" = .ok b →
        ExactTime 0x6a000000 b.block := by
  have hvalue : rpcBlock (answer "0x6a000000")
      = some [some "0x1", some hashText, some hashText, some "0x6a000000"] := by decide +kernel
  exact ⟨hvalue, (blockTimes_exact_iff _ _ "rpc-1" _ _ _ _ 0x6a000000 hvalue (by decide +kernel)
    (by decide)).mpr (Or.inl (by decide))⟩

/-- The last second of `u64` is the last second of 1969, and a payment in that block is on time
for an order whose time was up. -/
theorem payment_of_last_second_on_time :
    hexQuantity "0xffffffffffffffff" = some (2 ^ 64 - 1)
      ∧ parseBlock plainLibraries (answer "0xffffffffffffffff") "rpc-1"
        = .ok ⟨"rpc-1", header (-1000000)⟩
      ∧ matchStatusTransfer (log (-1000000)) candidate = .onTime
      ∧ candidate.expiresAt < seconds (2 ^ 64 - 1)
      ∧ ¬ ExactTime (2 ^ 64 - 1) (header (-1000000)) :=
  ⟨by decide +kernel, by decide +kernel, by decide, by decide,
    fun h => absurd h.since_epoch (by decide)⟩

end LastSecond
