import Pay3.HexCodecs

/-!
# Quantities

A provider writes a number as a quantity: `0x` and hexadecimal digits. The source reads a
block number or a time with `parse_hex_u64`, by the radix parser of the standard library, and
an amount with `parse_hex_u256`, digit by digit. On the same text they should read the same
number.

They do, but for one kind of text: the parser of the standard library takes a plus sign in
front of the digits, and no quantity has one (`quantities_agree_iff`).
-/

/-- **What a text says as a quantity**: the number of its digits, after the prefix. -/
def hexQuantity (s : String) : Option ℕ := do
  let hex ← stripHexPrefix s
  let digits ← hex.mapM hexValue
  pure (digitsValue 16 digits)

/-- The number of digits after the prefix. -/
def quantityDigits (s : String) : ℕ := (utf8 s).length - 2

/-- `quantity_hex`. -/
def quantityHex (value : ℕ) : String := "0x" ++ String.ofList (Nat.toDigits 16 value)

/-- **A text that writes a number with a plus sign**, in at most fifteen digits. -/
def SignedQuantity (s : String) : Prop :=
  ∃ digits, stripHexPrefix s = some (43 :: digits) ∧ 1 ≤ digits.length ∧ digits.length ≤ 15
    ∧ (digits.mapM hexValue).isSome

/-- **The two parsers agree on a text**: what one reads the other reads, as far as its numbers
go, and both take quantities and nothing else. -/
structure QuantitiesAgree (s field : String) : Prop where
  of_u64 : ∀ n, parseHexU64 s field = .ok n → parseHexU256 s field = .ok (BitVec.ofNat 256 n)
  to_u64 : ∀ v, parseHexU256 s field = .ok v → v.toNat < 2 ^ 64 → quantityDigits s ≤ 16 →
    parseHexU64 s field = .ok v.toNat
  takes_u64 : (∃ n, parseHexU64 s field = .ok n) ↔
    (hexQuantity s).isSome ∧ quantityDigits s ≤ 16
  takes_u256 : (∃ v, parseHexU256 s field = .ok v) ↔
    (hexQuantity s).isSome ∧ quantityDigits s ≤ 64

variable {s field : String} {hex : List UInt8} {n : ℕ} {v : RawAmount}

/-! ## The value of digits -/

theorem digitsValue_append_singleton (base : ℕ) (digits : List ℕ) (d : ℕ) :
    digitsValue base (digits ++ [d]) = digitsValue base digits * base + d := by
  unfold digitsValue
  rw [List.foldl_append]
  rfl

theorem digitsValue_zero_cons (base : ℕ) (digits : List ℕ) :
    digitsValue base (0 :: digits) = digitsValue base digits := by
  unfold digitsValue
  rw [List.foldl_cons, Nat.zero_mul]

theorem digitsValue_lt {digits : List ℕ} (h : ∀ d ∈ digits, d < 16) :
    digitsValue 16 digits < 16 ^ digits.length := by
  induction digits using List.reverseRecOn with
  | nil => exact Nat.one_pos
  | append_singleton digits d ih =>
    have hinit := ih (fun x hx => h x (List.mem_append_left _ hx))
    have hlast := h d (List.mem_append_right _ (List.mem_singleton_self d))
    rw [digitsValue_append_singleton, List.length_append, List.length_singleton, Nat.pow_succ]
    omega

theorem quantityDigits_of_strip (h : stripHexPrefix s = some hex) :
    quantityDigits s = hex.length := by
  obtain ⟨x, hs, -⟩ := stripHexPrefix_eq_some.mp h
  rw [quantityDigits, hs]
  rfl

theorem hexQuantity_eq_some_iff (h : stripHexPrefix s = some hex) :
    hexQuantity s = some n ↔ ∃ digits, hex.mapM hexValue = some digits ∧ digitsValue 16 digits = n := by
  unfold hexQuantity
  rw [h]
  show ((hex.mapM hexValue).bind fun digits => some (digitsValue 16 digits)) = some n ↔ _
  exact Option.bind_eq_some_iff.trans (exists_congr fun digits =>
    and_congr_right fun _ => Option.some_inj)

/-! ## `parse_hex_u64` -/

theorem fromStrRadix16_of_head_ne (hne : hex ≠ []) (hplus : hex.head? ≠ some 43) :
    fromStrRadix16 hex = (hex.mapM hexValue).map (digitsValue 16) := by
  unfold fromStrRadix16
  split
  · exact absurd rfl hne
  · exact absurd rfl hplus
  · exact absurd rfl hplus
  · rfl

theorem fromStrRadix16_plus {digits : List UInt8} (hne : digits ≠ []) :
    fromStrRadix16 (43 :: digits) = (digits.mapM hexValue).map (digitsValue 16) := by
  cases digits with
  | nil => exact absurd rfl hne
  | cons d digits => rfl

/-- What is read of the text behind the prefix, if there is any. -/
theorem parseHexU64_of_strip (h : stripHexPrefix s = some hex) (hne : hex ≠ []) :
    parseHexU64 s field = .ok n ↔ hex.length ≤ 16 ∧ fromStrRadix16 hex = some n := by
  unfold parseHexU64
  rw [h]
  show (if hex.isEmpty then _ else _) = _ ↔ _
  rw [if_neg (by rwa [List.isEmpty_iff])]
  by_cases hlength : 16 < hex.length
  · rw [if_pos hlength]
    exact iff_of_false (fun h => by cases h) (fun h => by omega)
  · rw [if_neg hlength, orError_eq_ok]
    exact ⟨fun h => ⟨by omega, h⟩, fun h => h.2⟩

/-- **Without a plus sign `parse_hex_u64` reads quantities**, of at most sixteen digits. -/
theorem parseHexU64_eq_ok_iff (h : stripHexPrefix s = some hex) (hplus : hex.head? ≠ some 43) :
    parseHexU64 s field = .ok n ↔ hexQuantity s = some n ∧ quantityDigits s ≤ 16 := by
  rw [hexQuantity_eq_some_iff h, quantityDigits_of_strip h]
  by_cases hne : hex = []
  · subst hne
    have hzero : parseHexU64 s field = .ok 0 := by
      unfold parseHexU64
      rw [h]
      rfl
    rw [hzero, Except.ok.injEq]
    refine ⟨?_, ?_⟩
    · rintro rfl
      exact ⟨⟨[], rfl, rfl⟩, Nat.zero_le 16⟩
    · rintro ⟨⟨digits, hdigits, rfl⟩, -⟩
      rw [← Option.some.inj hdigits]
      rfl
  · rw [parseHexU64_of_strip h hne, fromStrRadix16_of_head_ne hne hplus, and_comm]
    exact and_congr_left fun _ => Option.map_eq_some_iff

/-- **With a plus sign `parse_hex_u64` reads** the number behind the sign. -/
theorem exists_parseHexU64_iff_of_plus {digits : List UInt8}
    (h : stripHexPrefix s = some (43 :: digits)) :
    (∃ n, parseHexU64 s field = .ok n) ↔ SignedQuantity s := by
  have hread : (∃ n, parseHexU64 s field = .ok n)
      ↔ 1 ≤ digits.length ∧ digits.length ≤ 15 ∧ (digits.mapM hexValue).isSome := by
    simp only [parseHexU64_of_strip h (List.cons_ne_nil _ _), List.length_cons]
    cases digits with
    | nil => simp [fromStrRadix16]
    | cons d digits =>
      rw [fromStrRadix16_plus (List.cons_ne_nil d digits)]
      simp only [exists_and_left, Option.map_eq_some_iff, List.length_cons,
        Option.isSome_iff_exists]
      constructor
      · rintro ⟨hlength, n, ds, hds, -⟩
        exact ⟨by omega, by omega, ds, hds⟩
      · rintro ⟨-, hlength, ds, hds⟩
        exact ⟨by omega, digitsValue 16 ds, ds, hds, rfl⟩
  rw [hread, SignedQuantity, h]
  constructor
  · intro hd
    exact ⟨digits, rfl, hd⟩
  · rintro ⟨digits', heq, hd⟩
    obtain rfl := (List.cons.inj (Option.some.inj heq)).2
    exact hd

/-! ## `parse_hex_u256` -/

/-- **`parse_hex_u256` reads quantities**, of at most sixty-four digits. -/
theorem parseHexU256_eq_ok_iff (h : stripHexPrefix s = some hex) :
    parseHexU256 s field = .ok v
      ↔ ∃ n, hexQuantity s = some n ∧ quantityDigits s ≤ 64 ∧ BitVec.ofNat 256 n = v := by
  have hbytes : parseHexU256 s field = .ok v ↔ ∃ bytes,
      HexCodecs.decodePrefixedHex s field true = .ok bytes ∧ bytes.length ≤ 32
        ∧ BitVec.ofNat 256 (Abi.ofBytes bytes) = v := by
    rw [parseHexU256_eq, Except.bind_eq_ok]
    refine exists_congr fun bytes => and_congr_right fun _ => ?_
    rw [ensure_bind_eq_ok, decide_eq_true_eq, Except.pure_eq_ok]
  simp only [hbytes, HexCodecs.decodePrefixedHex_odd_eq_ok_iff h, hexQuantity_eq_some_iff h,
    quantityDigits_of_strip h]
  constructor
  · rintro ⟨bytes, ⟨digits, hdigits, heq⟩, hlength, hv⟩
    have hcount := length_of_mapM_hexValue hdigits
    have htwice := HexCodecs.length_digitsOf bytes
    rw [HexCodecs.ofBytes_eq_digitsValue, heq] at hv
    rw [heq] at htwice
    split at htwice
    · rename_i heven
      rw [if_pos heven] at hv
      exact ⟨_, ⟨digits, hdigits, rfl⟩, by omega, hv⟩
    · rename_i hodd
      rw [if_neg hodd, digitsValue_zero_cons] at hv
      rw [List.length_cons] at htwice
      exact ⟨_, ⟨digits, hdigits, rfl⟩, by omega, hv⟩
  · rintro ⟨_, ⟨digits, hdigits, rfl⟩, hlength, hv⟩
    have hcount := length_of_mapM_hexValue hdigits
    have hlt := (mapM_hexValue_eq_some hdigits).1
    by_cases heven : digits.length % 2 = 0
    · obtain ⟨bytes, heq⟩ := HexCodecs.exists_digitsOf heven hlt
      have htwice := HexCodecs.length_digitsOf bytes
      rw [heq] at htwice
      refine ⟨bytes, ⟨digits, hdigits, by rw [if_pos heven, heq]⟩, by omega, ?_⟩
      rw [HexCodecs.ofBytes_eq_digitsValue, heq, hv]
    · have hpadded : (0 :: digits).length % 2 = 0 := by
        rw [List.length_cons]
        omega
      obtain ⟨bytes, heq⟩ :=
        HexCodecs.exists_digitsOf hpadded (List.forall_mem_cons.mpr ⟨by decide, hlt⟩)
      have htwice := HexCodecs.length_digitsOf bytes
      rw [heq, List.length_cons] at htwice
      refine ⟨bytes, ⟨digits, hdigits, by rw [if_neg heven, heq]⟩, by omega, ?_⟩
      rw [HexCodecs.ofBytes_eq_digitsValue, heq, digitsValue_zero_cons, hv]

/-! ## `quantity_hex` -/

/-- The digits a number is printed with. -/
theorem exists_toDigits {base : ℕ} (hbase : 1 < base) (n : ℕ) :
    ∃ digits : List ℕ, Nat.toDigits base n = digits.map Nat.digitChar
      ∧ (∀ d ∈ digits, d < base) ∧ digitsValue base digits = n := by
  induction n using Nat.strongRecOn with
  | ind n ih =>
    by_cases hn : n < base
    · refine ⟨[n], Nat.toDigits_of_lt_base hn, by simpa using hn, ?_⟩
      show 0 * base + n = n
      omega
    · have hle : base ≤ n := Nat.le_of_not_lt hn
      obtain ⟨digits, htext, hlt, hvalue⟩ := ih (n / base) (Nat.div_lt_self (by omega) hbase)
      refine ⟨digits ++ [n % base], ?_, ?_, ?_⟩
      · rw [Nat.toDigits_of_base_le hbase hle, htext, List.map_append, List.map_singleton]
      · intro d hd
        rcases List.mem_append.mp hd with hd | hd
        · exact hlt d hd
        · rw [List.mem_singleton.mp hd]
          exact Nat.mod_lt _ (by omega)
      · rw [digitsValue_append_singleton, hvalue, Nat.mul_comm]
        exact Nat.div_add_mod n base

/-- **`quantity_hex` writes a quantity**, without a sign. -/
theorem hexQuantity_quantityHex (n : ℕ) :
    ∃ hex, stripHexPrefix (quantityHex n) = some hex ∧ hex.head? ≠ some 43
      ∧ hexQuantity (quantityHex n) = some n ∧ hex.length = (Nat.toDigits 16 n).length := by
  obtain ⟨digits, htext, hlt, hvalue⟩ := exists_toDigits (by decide : 1 < 16) n
  have hstrip : stripHexPrefix (quantityHex n) = some (digits.map hexCode) := by
    refine stripHexPrefix_eq_some.mpr ⟨120, ?_, Or.inl rfl⟩
    rw [quantityHex, utf8_append, htext, utf8_map_digitChar hlt]
    rfl
  have hread := mapM_hexValue_hexCode hlt
  refine ⟨_, hstrip, fun hhead => ?_, (hexQuantity_eq_some_iff hstrip).mpr ⟨digits, hread, hvalue⟩,
    ?_⟩
  · exact (mapM_hexValue_eq_some hread).2.2.2 (List.mem_of_head? hhead)
  · rw [htext, List.length_map, List.length_map]

theorem parseHexU64_quantityHex (hn : n < 2 ^ 64) : parseHexU64 (quantityHex n) field = .ok n := by
  obtain ⟨hex, hstrip, hplus, hvalue, hlength⟩ := hexQuantity_quantityHex n
  refine (parseHexU64_eq_ok_iff hstrip hplus).mpr ⟨hvalue, ?_⟩
  rw [quantityDigits_of_strip hstrip, hlength]
  exact (Nat.length_toDigits_le_iff (by decide) (by decide)).mpr (lt_of_lt_of_eq hn (by decide))

/-! ## They agree -/

/-- Quantities of at most sixty-four digits are below `2 ^ 256`. -/
theorem hexQuantity_lt {k : ℕ} (h : hexQuantity s = some n) (hk : quantityDigits s ≤ k) :
    n < 16 ^ k := by
  obtain ⟨hex, hstrip, -⟩ := Option.bind_eq_some_iff.mp h
  obtain ⟨digits, hdigits, rfl⟩ := (hexQuantity_eq_some_iff hstrip).mp h
  rw [quantityDigits_of_strip hstrip, ← length_of_mapM_hexValue hdigits] at hk
  exact lt_of_lt_of_le (digitsValue_lt (mapM_hexValue_eq_some hdigits).1)
    (Nat.pow_le_pow_right (by decide) hk)

/-- A text without a plus sign is read by both, or by none. -/
theorem quantitiesAgree_of_head_ne (h : stripHexPrefix s = some hex) (hplus : hex.head? ≠ some 43) :
    QuantitiesAgree s field where
  of_u64 := by
    intro n hn
    obtain ⟨hvalue, hdigits⟩ := (parseHexU64_eq_ok_iff h hplus).mp hn
    exact (parseHexU256_eq_ok_iff h).mpr ⟨n, hvalue, hdigits.trans (by decide), rfl⟩
  to_u64 := by
    intro v hv _ hdigits
    obtain ⟨n, hvalue, hlong, rfl⟩ := (parseHexU256_eq_ok_iff h).mp hv
    have hlt : n < 2 ^ 256 := lt_of_lt_of_eq (hexQuantity_lt hvalue hlong) (by decide)
    rw [BitVec.toNat_ofNat, Nat.mod_eq_of_lt hlt]
    exact (parseHexU64_eq_ok_iff h hplus).mpr ⟨hvalue, hdigits⟩
  takes_u64 := by
    simp only [parseHexU64_eq_ok_iff h hplus, exists_and_right, Option.isSome_iff_exists]
  takes_u256 := by
    simp only [parseHexU256_eq_ok_iff h, Option.isSome_iff_exists]
    constructor
    · rintro ⟨v, n, hvalue, hdigits, -⟩
      exact ⟨⟨n, hvalue⟩, hdigits⟩
    · rintro ⟨⟨n, hvalue⟩, hdigits⟩
      exact ⟨_, n, hvalue, hdigits, rfl⟩

/-- A text with a plus sign is no quantity. -/
theorem hexQuantity_of_plus {digits : List UInt8} (h : stripHexPrefix s = some (43 :: digits)) :
    hexQuantity s = none := by
  refine Option.eq_none_iff_forall_ne_some.mpr (fun n hn => ?_)
  obtain ⟨ds, hds, -⟩ := (hexQuantity_eq_some_iff h).mp hn
  exact (mapM_hexValue_eq_some hds).2.2.2 List.mem_cons_self

/-- **The two parsers agree on every text but those with a plus sign.** And what `quantity_hex`
writes is read back. -/
theorem quantities_agree_iff (s field : String) (n : ℕ) (hn : n < 2 ^ 64) :
    (QuantitiesAgree s field ↔ ¬ SignedQuantity s)
      ∧ parseHexU64 (quantityHex n) field = .ok n := by
  refine ⟨?_, parseHexU64_quantityHex hn⟩
  cases h : stripHexPrefix s with
  | none =>
    have hu64 : ∀ n, parseHexU64 s field ≠ .ok n := by
      intro n
      unfold parseHexU64
      rw [h]
      exact fun h => by cases h
    have hu256 : ∀ v, parseHexU256 s field ≠ .ok v := by
      intro v
      unfold parseHexU256
      rw [h]
      exact fun h => by cases h
    have hnone : hexQuantity s = none := by
      unfold hexQuantity
      rw [h]
      rfl
    refine iff_of_true ⟨fun n hn => absurd hn (hu64 n), fun v hv => absurd hv (hu256 v), ?_, ?_⟩ ?_
    · simp [hu64, hnone]
    · simp [hu256, hnone]
    · rintro ⟨digits, hdigits, -⟩
      rw [h] at hdigits
      cases hdigits
  | some hex =>
    by_cases hplus : hex.head? = some 43
    · obtain ⟨digits, rfl⟩ := List.head?_eq_some_iff.mp hplus
      have hnone := hexQuantity_of_plus h
      have hreads : (∃ n, parseHexU64 s field = .ok n) ↔ SignedQuantity s :=
        exists_parseHexU64_iff_of_plus h
      rw [← hreads]
      constructor
      · intro hagree htaken
        have hsome := (hagree.takes_u64.mp htaken).1
        rw [hnone] at hsome
        cases hsome
      · intro hrefused
        have hu256 : ∀ v, parseHexU256 s field ≠ .ok v := by
          intro v hv
          obtain ⟨n, hn, -⟩ := (parseHexU256_eq_ok_iff h).mp hv
          rw [hnone] at hn
          cases hn
        refine ⟨fun n hn => absurd ⟨n, hn⟩ hrefused, fun v hv => absurd hv (hu256 v), ?_, ?_⟩
        · exact iff_of_false hrefused (by simp [hnone])
        · simp [hu256, hnone]
    · refine iff_of_true (quantitiesAgree_of_head_ne h hplus) ?_
      rintro ⟨digits, hdigits, -⟩
      rw [h] at hdigits
      obtain rfl := Option.some.inj hdigits
      exact hplus rfl

/-- The two parsers on a block number. -/
theorem quantities_agree_on_block_number :
    31 < 2 ^ 64 ∧ QuantitiesAgree "0X01f" "block.number"
      ∧ parseHexU64 (quantityHex 31) "block.number" = .ok 31 := by
  refine ⟨by decide, (quantities_agree_iff "0X01f" "block.number" 31 (by decide)).1.mpr ?_,
    (quantities_agree_iff "0X01f" "block.number" 31 (by decide)).2⟩
  rintro ⟨digits, hdigits, -⟩
  have hstrip : stripHexPrefix "0X01f" = some [48, 49, 102] := by decide
  rw [hstrip] at hdigits
  exact absurd (List.cons.inj (Option.some.inj hdigits)).1 (by decide)

/-- A number with a plus sign is a block number, and no amount. -/
theorem plus_sign_read_by_one :
    parseHexU64 "0x+1f" "log.data" = .ok 31
      ∧ (∀ v, parseHexU256 "0x+1f" "log.data" ≠ .ok v)
      ∧ ¬ ∀ s field, QuantitiesAgree s field := by
  have hu64 : parseHexU64 "0x+1f" "log.data" = .ok 31 := by decide
  have hu256 : ∀ v, parseHexU256 "0x+1f" "log.data" ≠ .ok v := by
    intro v hv
    have hstrip : stripHexPrefix "0x+1f" = some [43, 49, 102] := by decide
    obtain ⟨n, hn, -⟩ := (parseHexU256_eq_ok_iff hstrip).mp hv
    rw [hexQuantity_of_plus hstrip] at hn
    cases hn
  exact ⟨hu64, hu256, fun h => hu256 _ ((h _ _).of_u64 31 hu64)⟩
