import Pay3.BlockTimes
import Mathlib.Data.Nat.Digits.Defs

/-!
# Blocks and logs on the wire

What an answer has to say for a block or a transfer log to be read from it, stated without
the parsers: which fields it has, and what the text of a field writes. The parsers take such
an answer and no other (`parseBlock_eq_ok_iff`, `parseTransferLog_eq_ok_iff`): what is
accepted is well formed, whatever the case of its digits, and what is written is read back.

A text is written with a prefix and hexadecimal digits. A hash or an address has all its
digits, an amount may lack leading ones, and a number of 64 bits may have a plus sign before
them.
-/

/-! ## Texts -/

/-- **The text writes a number of 64 bits**, in at most sixteen digits or a plus sign and at
most fifteen. -/
def WritesU64 (s : String) (n : ℕ) : Prop :=
  (hexQuantity s = some n ∧ quantityDigits s ≤ 16)
    ∨ ∃ digits ds, stripHexPrefix s = some (43 :: digits) ∧ digits ≠ [] ∧ digits.length ≤ 15
      ∧ digits.mapM hexValue = some ds ∧ digitsValue 16 ds = n

/-- **The text writes `n` bytes**, each with its two digits. -/
def WritesFixed (n : ℕ) (s : String) (v : BitVec (8 * n)) : Prop :=
  hexQuantity s = some v.toNat ∧ quantityDigits s = n * 2

/-- **The text writes an amount.** -/
def WritesAmount (s : String) (amount : RawAmount) : Prop :=
  hexQuantity s = some amount.toNat ∧ quantityDigits s ≤ 64

/-- The topic of a `Transfer` event. -/
def transferTopic : BitVec 256 :=
  0xddf252ad1be2c89b69c2b068fc378daa952ba7f163c4a11628f55a4df523b3ef

/-! ## Answers -/

/-- **The answer writes a block**, and its time as a number of seconds. -/
def WritesBlock (value : JsonValue) (b : BlockHeader) : Prop :=
  ∃ (number hash parentHash timestamp : String) (secs : ℕ),
    value.structFields ["number", "hash", "parentHash", "timestamp"]
        = some [.string number, .string hash, .string parentHash, .string timestamp]
      ∧ WritesU64 number b.number ∧ WritesFixed 32 hash b.hash
      ∧ WritesFixed 32 parentHash b.parentHash ∧ WritesU64 timestamp secs
      ∧ InCalendar (wrapI64 secs) ∧ b.timestamp = wrapI64 secs * 1000000

/-- **The answer writes a transfer log**: the event's topic and the two parties, each padded
to a word, are the first topics. -/
def WritesLog (value : JsonValue) (log : ParsedTransferLog) : Prop :=
  ∃ (address topic fromTopic toTopic data blockNumber blockHash txHash logIndex : String)
    (more : List String),
    value.structFields ["address", "topics", "data", "blockNumber", "blockHash",
        "transactionHash", "logIndex"]
        = some [.string address,
          .array ((topic :: fromTopic :: toTopic :: more).map JsonValue.string),
          .string data, .string blockNumber, .string blockHash, .string txHash,
          .string logIndex]
      ∧ WritesFixed 20 address log.tokenAddress ∧ WritesFixed 32 topic transferTopic
      ∧ WritesFixed 32 fromTopic (log.fromAddress.setWidth 256)
      ∧ WritesFixed 32 toTopic (log.toAddress.setWidth 256) ∧ WritesAmount data log.amountRaw
      ∧ WritesU64 blockNumber log.blockNumber ∧ WritesFixed 32 blockHash log.blockHash
      ∧ WritesFixed 32 txHash log.txHash ∧ WritesU64 logIndex log.logIndex

section Texts

variable {n : ℕ} {s kind field : String}

/-! ## What the parsers of a text take -/

theorem parseHexU64_eq_ok : parseHexU64 s field = .ok n ↔ WritesU64 s n := by
  unfold WritesU64
  cases hstrip : stripHexPrefix s with
  | none =>
    have hnone : hexQuantity s = none := by
      unfold hexQuantity
      rw [hstrip]
      rfl
    unfold parseHexU64
    rw [hstrip, hnone]
    refine iff_of_false (fun h => by cases h) ?_
    rintro (⟨h, -⟩ | ⟨_, _, h, -⟩) <;> cases h
  | some hex =>
    by_cases hplus : hex.head? = some 43
    · -- a sign is no digit, so only the second way of writing is left
      obtain ⟨digits, rfl⟩ := List.head?_eq_some_iff.mp hplus
      have hnone : hexQuantity s = none := hexQuantity_of_plus hstrip
      rw [parseHexU64_of_strip hstrip (List.cons_ne_nil _ _), hnone, List.length_cons]
      cases digits with
      | nil =>
        refine iff_of_false (fun h => by cases h.2) ?_
        rintro (⟨h, -⟩ | ⟨digits, _, h, hne, -⟩)
        · cases h
        · exact hne (List.cons.inj (Option.some.inj h)).2.symm
      | cons d digits =>
        rw [fromStrRadix16_plus (List.cons_ne_nil d digits), Option.map_eq_some_iff]
        constructor
        · rintro ⟨hlength, ds, hds, hvalue⟩
          exact Or.inr ⟨_, ds, rfl, List.cons_ne_nil d digits, by omega, hds, hvalue⟩
        · rintro (⟨h, -⟩ | ⟨_, ds, h, -, hlength, hds, hvalue⟩)
          · cases h
          · obtain rfl := (List.cons.inj (Option.some.inj h)).2
            exact ⟨by omega, ds, hds, hvalue⟩
    · rw [parseHexU64_eq_ok_iff hstrip hplus]
      refine ⟨Or.inl, ?_⟩
      rintro (h | ⟨digits, _, h, -⟩)
      · exact h
      · rw [Option.some.inj h] at hplus
        exact absurd rfl hplus

theorem stripHexPrefix_of_hexQuantity (h : hexQuantity s = some n) :
    ∃ hex digits, stripHexPrefix s = some hex ∧ hex.mapM hexValue = some digits
      ∧ digitsValue 16 digits = n := by
  obtain ⟨hex, hstrip, -⟩ := Option.bind_eq_some_iff.mp h
  obtain ⟨digits, hdigits, hvalue⟩ := (hexQuantity_eq_some_iff hstrip).mp h
  exact ⟨hex, digits, hstrip, hdigits, hvalue⟩

/-- Bytes are read from all their digits. -/
theorem decodeFixed_eq_ok {hex : List UInt8} {v : BitVec (8 * n)} :
    decodeFixed n hex kind = .ok v
      ↔ hex.length = n * 2 ∧ ∃ digits, hex.mapM hexValue = some digits
        ∧ digitsValue 16 digits = v.toNat := by
  unfold decodeFixed
  rw [ensure_bind_eq_ok, decide_eq_true_eq]
  refine and_congr_right fun hlength => ?_
  rw [Except.bind_eq_ok]
  constructor
  · rintro ⟨bytes, hbytes, h⟩
    obtain ⟨hlt, hdigits⟩ := (hexPairs_eq_ok_iff (by omega)).mp (Except.mapError_eq_ok.mp hbytes)
    refine ⟨_, hdigits, ?_⟩
    have hcount := length_of_mapM_hexValue hdigits
    have hvalue := digitsValue_lt (byteDigits_lt hlt)
    rw [digitsValue_byteDigits] at hvalue ⊢
    rw [← Except.pure_eq_ok.mp h, BitVec.toNat_ofNat, Nat.mod_eq_of_lt]
    rwa [hcount, hlength, show (16 : ℕ) = 2 ^ 4 from rfl, ← pow_mul,
      show 4 * (n * 2) = 8 * n by omega] at hvalue
  · rintro ⟨digits, hdigits, hvalue⟩
    have hcount := length_of_mapM_hexValue hdigits
    obtain ⟨bytes, hlt, rfl⟩ :=
      exists_byteDigits (hcount.trans hlength) (mapM_hexValue_eq_some hdigits).1
    refine ⟨bytes, Except.mapError_eq_ok.mpr ((hexPairs_eq_ok_iff (by omega)).mpr ⟨hlt, hdigits⟩),
      Except.pure_eq_ok.mpr ?_⟩
    rw [← digitsValue_byteDigits, hvalue, BitVec.ofNat_toNat, BitVec.setWidth_eq]

theorem parseFixed_eq_ok {v : BitVec (8 * n)} :
    parseFixed n kind s field = .ok v ↔ WritesFixed n s v := by
  unfold parseFixed decodePrefixedFixed WritesFixed
  rw [Except.mapError_eq_ok, Except.bind_eq_ok]
  constructor
  · rintro ⟨hex, hhex, h⟩
    have hstrip := orError_eq_ok.mp hhex
    obtain ⟨hlength, digits, hdigits, hvalue⟩ := decodeFixed_eq_ok.mp h
    rw [hexQuantity_eq_some_iff hstrip, quantityDigits_of_strip hstrip]
    exact ⟨⟨digits, hdigits, hvalue⟩, hlength⟩
  · rintro ⟨hvalue, hlength⟩
    obtain ⟨hex, digits, hstrip, hdigits, hvalue⟩ := stripHexPrefix_of_hexQuantity hvalue
    rw [quantityDigits_of_strip hstrip] at hlength
    exact ⟨hex, orError_eq_ok.mpr hstrip, decodeFixed_eq_ok.mpr ⟨hlength, digits, hdigits, hvalue⟩⟩

theorem parseHexU256_eq_ok {amount : RawAmount} :
    parseHexU256 s field = .ok amount ↔ WritesAmount s amount := by
  unfold WritesAmount
  cases hstrip : stripHexPrefix s with
  | none =>
    have hnone : hexQuantity s = none := by
      unfold hexQuantity
      rw [hstrip]
      rfl
    unfold parseHexU256
    rw [hstrip, hnone]
    exact iff_of_false (fun h => by cases h) (fun h => by cases h.1)
  | some hex =>
    rw [parseHexU256_eq_ok_iff hstrip]
    constructor
    · rintro ⟨n, hn, hlength, rfl⟩
      refine ⟨?_, hlength⟩
      rw [BitVec.toNat_ofNat, Nat.mod_eq_of_lt (lt_of_lt_of_eq (hexQuantity_lt hn hlength)
        (by norm_num))]
      exact hn
    · rintro ⟨hn, hlength⟩
      exact ⟨_, hn, hlength, by rw [BitVec.ofNat_toNat, BitVec.setWidth_eq]⟩

end Texts

/-! ## Topics -/

section Topics

variable {n : ℕ} {s t field : String} {digits digits' : List ℕ} {hex : List UInt8}

theorem digitsValue_eq_ofDigits (base : ℕ) (digits : List ℕ) :
    digitsValue base digits = Nat.ofDigits base digits.reverse := by
  induction digits using List.reverseRecOn with
  | nil => rfl
  | append_singleton digits d ih =>
    rw [digitsValue_append_singleton, ih, List.reverse_append, List.reverse_singleton,
      List.singleton_append, Nat.ofDigits_cons, Nat.add_comm, Nat.mul_comm]

/-- As many digits, of one value, are the same digits. -/
theorem digits_eq_of_value_eq (hlength : digits.length = digits'.length)
    (h : ∀ d ∈ digits, d < 16) (h' : ∀ d ∈ digits', d < 16)
    (hvalue : digitsValue 16 digits = digitsValue 16 digits') : digits = digits' := by
  rw [digitsValue_eq_ofDigits, digitsValue_eq_ofDigits] at hvalue
  refine List.reverse_injective (Nat.ofDigits_inj_of_len_eq (by decide) (by simpa using hlength)
    (fun d hd => h d (List.mem_reverse.mp hd)) (fun d hd => h' d (List.mem_reverse.mp hd)) hvalue)

theorem digitsValue_append (base : ℕ) (digits digits' : List ℕ) :
    digitsValue base (digits ++ digits')
      = digitsValue base digits * base ^ digits'.length + digitsValue base digits' := by
  simp only [digitsValue_eq_ofDigits, List.reverse_append, Nat.ofDigits_append,
    List.length_reverse]
  ring

theorem digitsValue_replicate (base k : ℕ) : digitsValue base (List.replicate k 0) = 0 := by
  induction k with
  | zero => rfl
  | succ k ih => rw [List.replicate_succ, digitsValue_zero_cons, ih]

/-- A byte that is a digit in lower case is that digit. -/
theorem hexValue_of_lowercase {byte : UInt8} {d : ℕ} (hd : d < 16)
    (h : asciiLowercase byte = hexCode d) : hexValue byte = some d := by
  have hall : ∀ k < 256, ∀ d < 16, asciiLowercase (UInt8.ofNat k) = hexCode d →
      hexValue (UInt8.ofNat k) = some d := by decide +kernel
  exact UInt8.forall_of_forall_lt (p := fun byte => ∀ d < 16, asciiLowercase byte = hexCode d →
    hexValue byte = some d) hall byte d hd h

theorem mapM_hexValue_of_lowercase (h : ∀ d ∈ digits, d < 16)
    (hhex : hex.map asciiLowercase = digits.map hexCode) : hex.mapM hexValue = some digits := by
  induction digits generalizing hex with
  | nil =>
    obtain rfl := List.map_eq_nil_iff.mp hhex
    rfl
  | cons d digits ih =>
    obtain ⟨byte, hex, rfl, hbyte, hhex⟩ := List.map_eq_cons_iff.mp hhex
    rw [List.mapM_cons, hexValue_of_lowercase (h d List.mem_cons_self) hbyte,
      ih (fun d hd => h d (List.mem_cons_of_mem _ hd)) hhex]
    rfl

theorem asciiLowercase_eq_zero {byte : UInt8} : asciiLowercase byte = 48 ↔ byte = 48 :=
  UInt8.forall_of_forall_lt (p := fun byte => asciiLowercase byte = 48 ↔ byte = 48)
    (by decide +kernel) byte

/-- A text in lower case that starts with the prefix. -/
theorem lowercase_eq_prefix_cons {rest : List UInt8} :
    (utf8 s).map asciiLowercase = 48 :: 120 :: rest
      ↔ ∃ hex, stripHexPrefix s = some hex ∧ hex.map asciiLowercase = rest := by
  have hletter : ∀ byte : UInt8, asciiLowercase byte = 120 ↔ byte = 120 ∨ byte = 88 :=
    UInt8.forall_of_forall_lt (by decide +kernel)
  simp only [stripHexPrefix_eq_some, List.map_eq_cons_iff, asciiLowercase_eq_zero, hletter]
  constructor
  · rintro ⟨_, _, hs, rfl, x, hex, rfl, hx, hrest⟩
    exact ⟨hex, ⟨x, hs, hx⟩, hrest⟩
  · rintro ⟨hex, ⟨x, hs, hx⟩, hrest⟩
    exact ⟨48, x :: hex, hs, rfl, x, hex, rfl, hx, hrest⟩

/-- **Texts that write the same bytes differ in case only**, and a text that differs from such
a text in case only is one. -/
theorem eqIgnoreAsciiCase_iff_writesFixed {v : BitVec (8 * n)} (ht : WritesFixed n t v) :
    eqIgnoreAsciiCase s t = true ↔ WritesFixed n s v := by
  obtain ⟨ht, hcount⟩ := ht
  obtain ⟨hex', digits', hstrip', hdigits', hvalue'⟩ := stripHexPrefix_of_hexQuantity ht
  rw [quantityDigits_of_strip hstrip', ← length_of_mapM_hexValue hdigits'] at hcount
  obtain ⟨hlt', hcodes', -⟩ := mapM_hexValue_eq_some hdigits'
  have hlower : (utf8 t).map asciiLowercase = 48 :: 120 :: digits'.map hexCode :=
    lowercase_eq_prefix_cons.mpr ⟨hex', hstrip', hcodes'.symm⟩
  rw [eqIgnoreAsciiCase, decide_eq_true_eq, hlower, lowercase_eq_prefix_cons, WritesFixed]
  constructor
  · rintro ⟨hex, hstrip, hhex⟩
    have hdigits := mapM_hexValue_of_lowercase hlt' hhex
    refine ⟨(hexQuantity_eq_some_iff hstrip).mpr ⟨digits', hdigits, hvalue'⟩, ?_⟩
    rw [quantityDigits_of_strip hstrip, ← length_of_mapM_hexValue hdigits, hcount]
  · rintro ⟨hs, hlength⟩
    obtain ⟨hex, digits, hstrip, hdigits, hvalue⟩ := stripHexPrefix_of_hexQuantity hs
    rw [quantityDigits_of_strip hstrip, ← length_of_mapM_hexValue hdigits] at hlength
    obtain ⟨hlt, hcodes, -⟩ := mapM_hexValue_eq_some hdigits
    obtain rfl := digits_eq_of_value_eq (hlength.trans hcount.symm) hlt hlt'
      (hvalue.trans hvalue'.symm)
    exact ⟨hex, hstrip, hcodes.symm⟩

/-- The topic of a `Transfer` event, in the case the source has it. -/
theorem writesFixed_erc20TransferTopic : WritesFixed 32 erc20TransferTopic transferTopic :=
  ⟨by decide +kernel, by decide +kernel⟩

/-- Digits that count for nothing are zeros. -/
theorem eq_replicate_of_digitsValue {k : ℕ} (hdigits : hex.mapM hexValue = some digits)
    (hlength : hex.length = k) (hvalue : digitsValue 16 digits = 0) :
    hex = List.replicate k 48 := by
  obtain ⟨hlt, hcodes, -⟩ := mapM_hexValue_eq_some hdigits
  have hcount := (length_of_mapM_hexValue hdigits).trans hlength
  have hzeros : digits = List.replicate k 0 := digits_eq_of_value_eq
    (by rw [hcount, List.length_replicate]) hlt
    (fun d hd => by rw [List.eq_of_mem_replicate hd]; decide)
    (by rw [hvalue, digitsValue_replicate])
  refine List.eq_replicate_iff.mpr ⟨hlength, fun byte hbyte => asciiLowercase_eq_zero.mp ?_⟩
  have hmem := List.mem_map_of_mem (f := asciiLowercase) hbyte
  rw [← hcodes, hzeros, List.map_replicate] at hmem
  exact List.eq_of_mem_replicate hmem

theorem mapM_hexValue_replicate (k : ℕ) :
    (List.replicate k (48 : UInt8)).mapM hexValue = some (List.replicate k 0) := by
  induction k with
  | zero => rfl
  | succ k ih =>
    rw [List.replicate_succ, List.mapM_cons, ih]
    rfl

/-- **A topic read as an address** is the address as a word. -/
theorem parseTopicAddress_eq_ok {a : EvmAddress} :
    parseTopicAddress s field = .ok a ↔ WritesFixed 32 s (a.setWidth 256) := by
  have hword : (a.setWidth 256).toNat = a.toNat :=
    BitVec.toNat_setWidth_of_le (by decide)
  unfold parseTopicAddress WritesFixed
  rw [Except.bind_eq_ok, hword]
  constructor
  · rintro ⟨hex, hhex, h⟩
    have hstrip := orError_eq_ok.mp hhex
    obtain ⟨hlength, h⟩ := ensure_bind_eq_ok.mp h
    obtain ⟨hzeros, h⟩ := ensure_bind_eq_ok.mp h
    obtain ⟨-, digits, hdigits, hvalue⟩ := decodeFixed_eq_ok.mp (Except.mapError_eq_ok.mp h)
    have hpad : hex.take 24 = List.replicate 24 48 := by
      refine List.eq_replicate_iff.mpr ⟨?_, fun byte hbyte => ?_⟩
      · rw [List.length_take, of_decide_eq_true hlength]
        rfl
      · exact of_decide_eq_true (List.all_eq_true.mp hzeros byte hbyte)
    have hall : hex.mapM hexValue = some (List.replicate 24 0 ++ digits) := by
      rw [← List.take_append_drop 24 hex, hpad, List.mapM_append, mapM_hexValue_replicate, hdigits]
      rfl
    rw [hexQuantity_eq_some_iff hstrip, quantityDigits_of_strip hstrip]
    refine ⟨⟨_, hall, ?_⟩, of_decide_eq_true hlength⟩
    rw [digitsValue_append, digitsValue_replicate, Nat.zero_mul, Nat.zero_add, hvalue]
  · rintro ⟨hs, hlength⟩
    obtain ⟨hex, digits, hstrip, hdigits, hvalue⟩ := stripHexPrefix_of_hexQuantity hs
    rw [quantityDigits_of_strip hstrip] at hlength
    rw [← List.take_append_drop 24 hex, List.mapM_append] at hdigits
    obtain ⟨pad, hpad, hdigits⟩ := Option.bind_eq_some_iff.mp hdigits
    obtain ⟨own, hown, hdigits⟩ := Option.bind_eq_some_iff.mp hdigits
    obtain rfl := Option.some.inj hdigits
    have hcount : own.length = 40 := by
      rw [length_of_mapM_hexValue hown, List.length_drop, hlength]
    have hsmall := a.isLt
    -- an address has no digit before its last forty
    have hnothing : digitsValue 16 pad = 0 := by
      rw [digitsValue_append, hcount] at hvalue
      norm_num at hvalue hsmall
      omega
    have hzeros := eq_replicate_of_digitsValue hpad (by rw [List.length_take, hlength]) hnothing
    rw [digitsValue_append, hnothing, Nat.zero_mul, Nat.zero_add] at hvalue
    refine ⟨hex, orError_eq_ok.mpr hstrip, ensure_bind_eq_ok.mpr ⟨decide_eq_true hlength,
      ensure_bind_eq_ok.mpr ⟨?_, Except.mapError_eq_ok.mpr (decodeFixed_eq_ok.mpr
        ⟨by rw [List.length_drop, hlength], own, hown, hvalue⟩)⟩⟩⟩
    rw [hzeros]
    rfl

end Topics

/-! ## What the parsers of an answer take -/

/-- Where a result says which value it was read from, the results of a list say which list. -/
theorem mapM_eq_some_iff_map {α β γ : Type*} {read : α → Option β} {k : γ → β} {write : γ → α}
    (h : ∀ a c, read a = some (k c) ↔ a = write c) {values : List α} {texts : List γ} :
    values.mapM read = some (texts.map k) ↔ values = texts.map write := by
  induction values generalizing texts with
  | nil => cases texts <;> simp
  | cons a values ih =>
    rw [List.mapM_cons]
    constructor
    · intro hread
      obtain ⟨b, hb, hread⟩ := Option.bind_eq_some_iff.mp hread
      obtain ⟨rest, hrest, hread⟩ := Option.bind_eq_some_iff.mp hread
      obtain ⟨c, texts, rfl, rfl, rfl⟩ := List.map_eq_cons_iff.mp (Option.some.inj hread).symm
      rw [List.map_cons, (h a c).mp hb, ← ih.mp hrest]
    · intro hwrite
      obtain ⟨c, texts, rfl, rfl, rfl⟩ := List.map_eq_cons_iff.mp hwrite.symm
      rw [(h _ c).mpr rfl, ih.mpr rfl]
      rfl

namespace JsonValue

variable {value : JsonValue} {s : String} {texts : List String}

theorem asString_eq_some : value.asString = some s ↔ value = .string s := by
  cases value <;> simp [asString]

theorem asOptionString_eq_some : value.asOptionString = some (some s) ↔ value = .string s := by
  cases value <;> simp [asOptionString]

theorem asStrings_eq_some : value.asStrings = some texts ↔ value = .array (texts.map .string) := by
  cases value with
  | array values =>
    have hmap : values.mapM asString = some (texts.map id) ↔ values = texts.map .string :=
      mapM_eq_some_iff_map (fun _ _ => asString_eq_some)
    rw [List.map_id] at hmap
    rw [asStrings, hmap, JsonValue.array.injEq]
  | _ => simp [asStrings]

end JsonValue

section Answers

variable {libs : RpcLibraries} {value : JsonValue} {text : Option String}
  {field providerId : String} {n : ℕ}

theorem requiredText_eq_ok {s : String} : requiredText text field = .ok s ↔ text = some s :=
  orError_eq_ok

theorem parseRequiredHexU64_eq_ok :
    parseRequiredHexU64 text field = .ok n ↔ ∃ s, text = some s ∧ WritesU64 s n := by
  simp only [parseRequiredHexU64, Except.bind_eq_ok, requiredText_eq_ok, parseHexU64_eq_ok]

theorem parseRequiredBlockHash_eq_ok {hash : BlockHash} :
    parseRequiredBlockHash text field = .ok hash ↔ ∃ s, text = some s ∧ WritesFixed 32 s hash := by
  simp only [parseRequiredBlockHash, Except.bind_eq_ok, requiredText_eq_ok, parseFixed_eq_ok]

theorem parseRequiredTxHash_eq_ok {hash : TxHash} :
    parseRequiredTxHash text field = .ok hash ↔ ∃ s, text = some s ∧ WritesFixed 32 s hash := by
  simp only [parseRequiredTxHash, Except.bind_eq_ok, requiredText_eq_ok, parseFixed_eq_ok]

/-- The fields of a block that are all there. -/
theorem rpcBlock_eq_some {texts : List String} :
    rpcBlock value = some (texts.map some)
      ↔ value.structFields ["number", "hash", "parentHash", "timestamp"]
        = some (texts.map JsonValue.string) := by
  have hread : ∀ values : List JsonValue,
      values.mapM JsonValue.asOptionString = some (texts.map some) ↔ values = texts.map .string :=
    fun _ => mapM_eq_some_iff_map (fun _ _ => JsonValue.asOptionString_eq_some)
  unfold rpcBlock
  rw [Option.bind_eq_bind, Option.bind_eq_some_iff]
  simp only [hread, exists_eq_right]

/-- **`parse_block` takes the answers that write a block**, and reads that block from them. -/
theorem parseBlock_eq_ok_iff {b : ProviderBlock} :
    parseBlock libs value providerId = .ok b
      ↔ b.providerId = providerId ∧ WritesBlock value b.block := by
  unfold parseBlock WritesBlock
  constructor
  · intro h
    split at h
    · rename_i number hash parentHash timestamp hvalue
      obtain ⟨k, hk, h⟩ := Except.bind_eq_ok.mp h
      obtain ⟨bh, hbh, h⟩ := Except.bind_eq_ok.mp h
      obtain ⟨ph, hph, h⟩ := Except.bind_eq_ok.mp h
      obtain ⟨secs, hsecs, h⟩ := Except.bind_eq_ok.mp h
      obtain ⟨t, ht, h⟩ := Except.bind_eq_ok.mp h
      obtain rfl := Except.pure_eq_ok.mp h
      obtain ⟨number, rfl, hk'⟩ := parseRequiredHexU64_eq_ok.mp hk
      obtain ⟨hash, rfl, hbh'⟩ := parseRequiredBlockHash_eq_ok.mp hbh
      obtain ⟨parentHash, rfl, hph'⟩ := parseRequiredBlockHash_eq_ok.mp hph
      obtain ⟨timestamp, rfl, hsecs'⟩ := parseRequiredHexU64_eq_ok.mp hsecs
      have hfields : value.structFields ["number", "hash", "parentHash", "timestamp"]
          = some ([number, hash, parentHash, timestamp].map .string) :=
        rpcBlock_eq_some.mp hvalue
      exact ⟨rfl, _, _, _, _, secs, hfields, hk', hbh', hph', hsecs',
        libs.fromUnixTimestamp_eq_ok.mp (Except.mapError_eq_ok.mp ht)⟩
    · cases h
  · obtain ⟨providerId', b⟩ := b
    rintro ⟨rfl, number, hash, parentHash, timestamp, secs, hfields, hk, hbh, hph, hsecs, ht⟩
    have hvalue : rpcBlock value = some ([number, hash, parentHash, timestamp].map some) :=
      rpcBlock_eq_some.mpr hfields
    rw [hvalue]
    refine Except.bind_eq_ok.mpr ⟨_, parseRequiredHexU64_eq_ok.mpr ⟨_, rfl, hk⟩,
      Except.bind_eq_ok.mpr ⟨_, parseRequiredBlockHash_eq_ok.mpr ⟨_, rfl, hbh⟩,
      Except.bind_eq_ok.mpr ⟨_, parseRequiredBlockHash_eq_ok.mpr ⟨_, rfl, hph⟩,
      Except.bind_eq_ok.mpr ⟨_, parseRequiredHexU64_eq_ok.mpr ⟨_, rfl, hsecs⟩,
      Except.bind_eq_ok.mpr ⟨_, Except.mapError_eq_ok.mpr (libs.fromUnixTimestamp_eq_ok.mpr ht),
        rfl⟩⟩⟩⟩⟩

/-- The fields of a log. -/
theorem rpcLog_eq_some {log : RpcLog} :
    rpcLog value = some log
      ↔ ∃ address topics data blockNumber blockHash txHash logIndex : JsonValue,
        value.structFields ["address", "topics", "data", "blockNumber", "blockHash",
            "transactionHash", "logIndex"]
            = some [address, topics, data, blockNumber, blockHash, txHash, logIndex]
          ∧ address.asString = some log.address ∧ topics.asStrings = some log.topics
          ∧ data.asString = some log.data ∧ blockNumber.asOptionString = some log.blockNumber
          ∧ blockHash.asOptionString = some log.blockHash
          ∧ txHash.asOptionString = some log.transactionHash
          ∧ logIndex.asOptionString = some log.logIndex := by
  unfold rpcLog
  rw [Option.bind_eq_bind, Option.bind_eq_some_iff]
  constructor
  · rintro ⟨values, hvalues, h⟩
    split at h
    · rename_i address topics data blockNumber blockHash txHash logIndex
      obtain ⟨a, ha, h⟩ := Option.bind_eq_some_iff.mp h
      obtain ⟨ts, hts, h⟩ := Option.bind_eq_some_iff.mp h
      obtain ⟨d, hd, h⟩ := Option.bind_eq_some_iff.mp h
      obtain ⟨bn, hbn, h⟩ := Option.bind_eq_some_iff.mp h
      obtain ⟨bh, hbh, h⟩ := Option.bind_eq_some_iff.mp h
      obtain ⟨th, hth, h⟩ := Option.bind_eq_some_iff.mp h
      obtain ⟨li, hli, h⟩ := Option.bind_eq_some_iff.mp h
      obtain rfl := Option.some.inj h
      exact ⟨_, _, _, _, _, _, _, hvalues, ha, hts, hd, hbn, hbh, hth, hli⟩
    · cases h
  · rintro ⟨_, _, _, _, _, _, _, hvalues, ha, hts, hd, hbn, hbh, hth, hli⟩
    refine ⟨_, hvalues, ?_⟩
    simp only [ha, hts, hd, hbn, hbh, hth, hli]
    rfl

/-- **`parse_transfer_log` takes the answers that write a transfer log**, and reads that log from
them. -/
theorem parseTransferLog_eq_ok_iff {log : ParsedTransferLog} :
    parseTransferLog libs value = .ok log ↔ WritesLog value log := by
  unfold parseTransferLog WritesLog
  constructor
  · intro h
    obtain ⟨rpc, hrpc, h⟩ := Except.bind_eq_ok.mp h
    obtain ⟨token, htoken, h⟩ := Except.bind_eq_ok.mp h
    obtain ⟨bn, hbn, h⟩ := Except.bind_eq_ok.mp h
    obtain ⟨bh, hbh, h⟩ := Except.bind_eq_ok.mp h
    obtain ⟨th, hth, h⟩ := Except.bind_eq_ok.mp h
    obtain ⟨li, hli, h⟩ := Except.bind_eq_ok.mp h
    obtain ⟨_, _, _, _, _, _, _, hfields, ha, hts, hd, hbn', hbh', hth', hli'⟩ :=
      rpcLog_eq_some.mp (orError_eq_ok.mp hrpc)
    split at h
    · rename_i topic fromTopic toTopic more htopics
      obtain ⟨htopic, h⟩ := ensure_bind_eq_ok.mp h
      obtain ⟨fromAddress, hfrom, h⟩ := Except.bind_eq_ok.mp h
      obtain ⟨toAddress, hto, h⟩ := Except.bind_eq_ok.mp h
      obtain ⟨amount, hamount, h⟩ := Except.bind_eq_ok.mp h
      obtain rfl := Except.pure_eq_ok.mp h
      obtain ⟨bnText, hbnText, hbn⟩ := parseRequiredHexU64_eq_ok.mp hbn
      obtain ⟨bhText, hbhText, hbh⟩ := parseRequiredBlockHash_eq_ok.mp hbh
      obtain ⟨thText, hthText, hth⟩ := parseRequiredTxHash_eq_ok.mp hth
      obtain ⟨liText, hliText, hli⟩ := parseRequiredHexU64_eq_ok.mp hli
      rw [hbnText] at hbn'
      rw [hbhText] at hbh'
      rw [hthText] at hth'
      rw [hliText] at hli'
      rw [htopics] at hts
      rw [JsonValue.asString_eq_some.mp ha, JsonValue.asStrings_eq_some.mp hts,
        JsonValue.asString_eq_some.mp hd, JsonValue.asOptionString_eq_some.mp hbn',
        JsonValue.asOptionString_eq_some.mp hbh', JsonValue.asOptionString_eq_some.mp hth',
        JsonValue.asOptionString_eq_some.mp hli'] at hfields
      exact ⟨_, topic, fromTopic, toTopic, _, _, _, _, _, more, hfields, parseFixed_eq_ok.mp htoken,
        (eqIgnoreAsciiCase_iff_writesFixed writesFixed_erc20TransferTopic).mp htopic,
        parseTopicAddress_eq_ok.mp hfrom, parseTopicAddress_eq_ok.mp hto,
        parseHexU256_eq_ok.mp hamount, hbn, hbh, hth, hli⟩
    · cases h
  · rintro ⟨address, topic, fromTopic, toTopic, data, bn, bh, th, li, more, hfields, ha, htopic,
      hfrom, hto, hd, hbn, hbh, hth, hli⟩
    have hrpc : rpcLog value = some ⟨address, topic :: fromTopic :: toTopic :: more, data, some bn,
        some bh, some th, some li⟩ :=
      rpcLog_eq_some.mpr ⟨_, _, _, _, _, _, _, hfields, rfl, JsonValue.asStrings_eq_some.mpr rfl,
        rfl, rfl, rfl, rfl, rfl⟩
    rw [hrpc]
    refine Except.bind_eq_ok.mpr ⟨_, rfl, Except.bind_eq_ok.mpr ⟨_, parseFixed_eq_ok.mpr ha,
      Except.bind_eq_ok.mpr ⟨_, parseRequiredHexU64_eq_ok.mpr ⟨_, rfl, hbn⟩,
      Except.bind_eq_ok.mpr ⟨_, parseRequiredBlockHash_eq_ok.mpr ⟨_, rfl, hbh⟩,
      Except.bind_eq_ok.mpr ⟨_, parseRequiredTxHash_eq_ok.mpr ⟨_, rfl, hth⟩,
      Except.bind_eq_ok.mpr ⟨_, parseRequiredHexU64_eq_ok.mpr ⟨_, rfl, hli⟩, ?_⟩⟩⟩⟩⟩⟩
    exact ensure_bind_eq_ok.mpr
      ⟨(eqIgnoreAsciiCase_iff_writesFixed writesFixed_erc20TransferTopic).mpr htopic,
      Except.bind_eq_ok.mpr ⟨_, parseTopicAddress_eq_ok.mpr hfrom,
      Except.bind_eq_ok.mpr ⟨_, parseTopicAddress_eq_ok.mpr hto,
      Except.bind_eq_ok.mpr ⟨_, parseHexU256_eq_ok.mpr hd, rfl⟩⟩⟩⟩

/-- **What is read is what is written.** A block is read from an answer exactly when the answer
writes it, a transfer log likewise, and no answer writes two. -/
theorem answers_read_iff_written (libs : RpcLibraries) (value : JsonValue)
    (providerId : String) :
    (∀ b, parseBlock libs value providerId = .ok b
        ↔ b.providerId = providerId ∧ WritesBlock value b.block)
      ∧ (∀ log, parseTransferLog libs value = .ok log ↔ WritesLog value log)
      ∧ (∀ b b', WritesBlock value b → WritesBlock value b' → b = b')
      ∧ ∀ log log', WritesLog value log → WritesLog value log' → log = log' := by
  refine ⟨fun b => parseBlock_eq_ok_iff, fun log => parseTransferLog_eq_ok_iff,
    fun b b' h h' => ?_, fun log log' h h' => ?_⟩
  · have hread : parseBlock libs value providerId = .ok ⟨providerId, b⟩ :=
      parseBlock_eq_ok_iff.mpr ⟨rfl, h⟩
    have hread' : parseBlock libs value providerId = .ok ⟨providerId, b'⟩ :=
      parseBlock_eq_ok_iff.mpr ⟨rfl, h'⟩
    exact congrArg ProviderBlock.block (Except.ok.inj (hread.symm.trans hread'))
  · have hread : parseTransferLog libs value = .ok log := parseTransferLog_eq_ok_iff.mpr h
    have hread' : parseTransferLog libs value = .ok log' :=
      parseTransferLog_eq_ok_iff.mpr h'
    exact Except.ok.inj (hread.symm.trans hread')

end Answers
