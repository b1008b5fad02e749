import Pay3.ProviderPanics

/-!
# The hexadecimal codecs

Hashes and addresses come as text from two sides: from the database and the API, where
`decode_prefixed_fixed` reads them and `encode_lower_prefixed` writes them, and from the
providers, where `chain/rpc.rs` has a decoder and an encoder of its own. What one side
wrote the other compares with, so they have to agree on every text. They do
(`hexCodecs_agree`).

Here the decoders give the bytes as the source has them; `RpcValues` and `ProviderPanics`
go on to the number the bytes write, and the connection is proved for both.
-/

/-! ## Texts of one byte a character -/

theorem utf8_ofList (cs : List Char) :
    utf8 (String.ofList cs) = cs.flatMap String.utf8EncodeChar := by
  unfold utf8
  rw [String.toUTF8_eq_toByteArray, String.toByteArray_ofList, List.utf8Encode]
  simp

/-- The character of a byte below 128. -/
def asciiChar (byte : UInt8) : Char := Char.ofNat byte.toNat

theorem UInt8.forall_of_forall_lt {p : UInt8 → Prop} (h : ∀ n < 256, p (UInt8.ofNat n))
    (byte : UInt8) : p byte :=
  UInt8.ofNat_toNat (x := byte) ▸ h byte.toNat byte.toNat_lt

theorem utf8EncodeChar_asciiChar {byte : UInt8} (h : byte < 128) :
    String.utf8EncodeChar (asciiChar byte) = [byte] := by
  have hall : ∀ n < 128, String.utf8EncodeChar (Char.ofNat n) = [UInt8.ofNat n] := by decide
  rw [asciiChar, hall byte.toNat h, UInt8.ofNat_toNat]

theorem utf8_ofList_asciiChar {bytes : List UInt8} (h : ∀ byte ∈ bytes, byte < 128) :
    utf8 (String.ofList (bytes.map asciiChar)) = bytes := by
  rw [utf8_ofList, List.flatMap_map]
  induction bytes with
  | nil => rfl
  | cons byte bytes ih =>
    rw [List.flatMap_cons, utf8EncodeChar_asciiChar (h byte List.mem_cons_self),
      ih (fun b hb => h b (List.mem_cons_of_mem _ hb))]
    rfl

/-- **A text of bytes below 128 in lower case**, byte by byte. -/
theorem utf8_map_toLower {s : String} (h : ∀ byte ∈ utf8 s, byte < 128) :
    utf8 (String.ofList (s.toList.map Char.toLower)) = (utf8 s).map asciiLowercase := by
  have hs : s.toList = (utf8 s).map asciiChar := by
    rw [← String.toList_ofList (l := (utf8 s).map asciiChar)]
    exact congrArg String.toList (utf8_injective (utf8_ofList_asciiChar h).symm)
  have hbyte : ∀ n < 128, (asciiChar (UInt8.ofNat n)).toLower
      = asciiChar (asciiLowercase (UInt8.ofNat n)) ∧ asciiLowercase (UInt8.ofNat n) < 128 := by
    decide
  have hlower : ∀ byte ∈ utf8 s, (asciiChar byte).toLower = asciiChar (asciiLowercase byte)
      ∧ asciiLowercase byte < 128 := by
    intro byte hmem
    have hcase := hbyte byte.toNat (h byte hmem)
    rwa [UInt8.ofNat_toNat] at hcase
  have hmap : s.toList.map Char.toLower = ((utf8 s).map asciiLowercase).map asciiChar := by
    rw [hs, List.map_map, List.map_map]
    exact List.map_congr_left (fun byte hmem => (hlower byte hmem).1)
  rw [hmap, utf8_ofList_asciiChar]
  intro byte hmem
  obtain ⟨b, hb, rfl⟩ := List.mem_map.mp hmem
  exact (hlower b hb).2

theorem stripHexPrefix_eq_some {s : String} {hex : List UInt8} :
    stripHexPrefix s = some hex ↔ ∃ x, utf8 s = 48 :: x :: hex ∧ (x = 120 ∨ x = 88) := by
  unfold stripHexPrefix
  constructor
  · intro h
    split at h
    · rename_i hs
      exact ⟨120, Option.some.inj h ▸ hs, Or.inl rfl⟩
    · rename_i hs
      exact ⟨88, Option.some.inj h ▸ hs, Or.inr rfl⟩
    · cases h
  · rintro ⟨x, hs, rfl | rfl⟩ <;> rw [hs] <;> rfl

/-! ## Digits -/

/-- The byte of a digit in lower case. -/
def hexCode (digit : ℕ) : UInt8 := UInt8.ofNat (Nat.digitChar digit).toNat

theorem hexValue_hexCode {digit : ℕ} (h : digit < 16) : hexValue (hexCode digit) = some digit := by
  have hall : ∀ d < 16, hexValue (hexCode d) = some d := by decide
  exact hall digit h

theorem hexCode_lt {digit : ℕ} (h : digit < 16) : hexCode digit < 128 := by
  have hall : ∀ d < 16, hexCode d < 128 := by decide
  exact hall digit h

theorem utf8_map_digitChar {digits : List ℕ} (h : ∀ d ∈ digits, d < 16) :
    utf8 (String.ofList (digits.map Nat.digitChar)) = digits.map hexCode := by
  have hchar : ∀ d < 16, Nat.digitChar d = asciiChar (hexCode d) := by decide
  have hmap : digits.map Nat.digitChar = (digits.map hexCode).map asciiChar := by
    rw [List.map_map]
    exact List.map_congr_left (fun d hd => hchar d (h d hd))
  rw [hmap, utf8_ofList_asciiChar]
  intro byte hmem
  obtain ⟨d, hd, rfl⟩ := List.mem_map.mp hmem
  exact hexCode_lt (h d hd)

/-- **What is known of a byte that is a digit.** -/
theorem hexValue_eq_some {byte : UInt8} {digit : ℕ} (h : hexValue byte = some digit) :
    digit < 16 ∧ hexCode digit = asciiLowercase byte ∧ byte < 128 ∧ byte ≠ 43 := by
  have hall : ∀ n < 256, (hexValue (UInt8.ofNat n)).all (fun d => decide (d < 16
      ∧ hexCode d = asciiLowercase (UInt8.ofNat n) ∧ UInt8.ofNat n < 128
      ∧ UInt8.ofNat n ≠ 43)) = true := by decide +kernel
  have hbyte := UInt8.forall_of_forall_lt (p := fun byte => (hexValue byte).all (fun d =>
    decide (d < 16 ∧ hexCode d = asciiLowercase byte ∧ byte < 128 ∧ byte ≠ 43)) = true) hall byte
  rw [h] at hbyte
  exact of_decide_eq_true hbyte

theorem mapM_hexValue_hexCode {digits : List ℕ} (h : ∀ d ∈ digits, d < 16) :
    (digits.map hexCode).mapM hexValue = some digits := by
  induction digits with
  | nil => rfl
  | cons d digits ih =>
    rw [List.map_cons, List.mapM_cons, hexValue_hexCode (h d List.mem_cons_self),
      ih (fun d hd => h d (List.mem_cons_of_mem _ hd))]
    rfl

/-- Digits that are read are, in lower case, the digits of what was read. -/
theorem mapM_hexValue_eq_some {hex : List UInt8} {digits : List ℕ}
    (h : hex.mapM hexValue = some digits) :
    (∀ d ∈ digits, d < 16) ∧ digits.map hexCode = hex.map asciiLowercase
      ∧ (∀ byte ∈ hex, byte < 128) ∧ 43 ∉ hex := by
  induction hex generalizing digits with
  | nil =>
    obtain rfl := Option.some.inj h
    simp
  | cons byte hex ih =>
    rw [List.mapM_cons] at h
    obtain ⟨d, hd, h⟩ := Option.bind_eq_some_iff.mp h
    obtain ⟨ds, hds, h⟩ := Option.bind_eq_some_iff.mp h
    obtain rfl := Option.some.inj h
    obtain ⟨hlt, hcode, hbyte, hplus⟩ := hexValue_eq_some hd
    obtain ⟨hlts, hcodes, hbytes, hpluss⟩ := ih hds
    refine ⟨List.forall_mem_cons.mpr ⟨hlt, hlts⟩, ?_, List.forall_mem_cons.mpr ⟨hbyte, hbytes⟩, ?_⟩
    · rw [List.map_cons, List.map_cons, hcode, hcodes]
    · exact List.not_mem_cons_of_ne_of_not_mem (Ne.symm hplus) hpluss

theorem length_of_mapM_hexValue {hex : List UInt8} {digits : List ℕ}
    (h : hex.mapM hexValue = some digits) : digits.length = hex.length := by
  have hcodes := congrArg List.length (mapM_hexValue_eq_some h).2.1
  rwa [List.length_map, List.length_map] at hcodes

/-! ## Pairs of digits -/

/-- The two digits of a byte. -/
def byteDigits (byte : ℕ) : List ℕ := [byte / 16, byte % 16]

theorem byteDigits_lt {bytes : List ℕ} (h : ∀ b ∈ bytes, b < 256) :
    ∀ d ∈ bytes.flatMap byteDigits, d < 16 := by
  intro d hd
  obtain ⟨b, hb, hmem⟩ := List.mem_flatMap.mp hd
  have hlt := h b hb
  simp only [byteDigits, List.mem_cons, List.not_mem_nil, or_false] at hmem
  omega

theorem byteDigits_injective {a b : List ℕ} (h : a.flatMap byteDigits = b.flatMap byteDigits) :
    a = b := by
  induction a generalizing b with
  | nil =>
    cases b with
    | nil => rfl
    | cons y b => cases h
  | cons x a ih =>
    cases b with
    | nil => cases h
    | cons y b =>
      simp only [List.flatMap_cons, byteDigits, List.cons_append, List.nil_append,
        List.cons.injEq] at h
      obtain ⟨hhigh, hlow, hrest⟩ := h
      rw [ih hrest, show x = y by omega]

/-- **Pairs of digits are read** as the bytes whose digits they are. -/
theorem hexPairs_eq_ok_iff {i : ℕ} {hex : List UInt8} {bytes : List ℕ}
    (heven : hex.length % 2 = 0) :
    hexPairs i hex = .ok bytes
      ↔ (∀ b ∈ bytes, b < 256) ∧ hex.mapM hexValue = some (bytes.flatMap byteDigits) := by
  induction bytes generalizing i hex with
  | nil =>
    rcases hex with _ | ⟨a, _ | ⟨b, rest⟩⟩
    · exact iff_of_true rfl ⟨fun b hb => (List.not_mem_nil hb).elim, rfl⟩
    · exact absurd (show 1 % 2 = 0 from heven) (by decide)
    · refine iff_of_false (fun h => ?_) (fun h => ?_)
      · rw [hexPairs] at h
        obtain ⟨_, -, h⟩ := Except.bind_eq_ok.mp h
        obtain ⟨_, -, h⟩ := Except.bind_eq_ok.mp h
        obtain ⟨_, -, h⟩ := Except.bind_eq_ok.mp h
        cases Except.ok.inj h
      · have hlength := length_of_mapM_hexValue h.2
        cases hlength
  | cons byte bytes ih =>
    rcases hex with _ | ⟨a, _ | ⟨b, rest⟩⟩
    · refine iff_of_false (fun h => ?_) (fun h => ?_)
      · cases Except.ok.inj h
      · cases Option.some.inj h.2
    · exact absurd (show 1 % 2 = 0 from heven) (by decide)
    · have hrest : rest.length % 2 = 0 := by
        simp only [List.length_cons] at heven
        omega
      rw [hexPairs, List.flatMap_cons, List.mapM_cons]
      constructor
      · intro h
        obtain ⟨high, hhigh, h⟩ := Except.bind_eq_ok.mp h
        obtain ⟨low, hlow, h⟩ := Except.bind_eq_ok.mp h
        obtain ⟨tail, htail, h⟩ := Except.bind_eq_ok.mp h
        obtain ⟨rfl, rfl⟩ := List.cons.inj (Except.ok.inj h)
        rw [orError_eq_ok] at hhigh hlow
        have hhighlt := (hexValue_eq_some hhigh).1
        have hlowlt := (hexValue_eq_some hlow).1
        obtain ⟨hlt, hdigits⟩ := (ih hrest).mp htail
        refine ⟨List.forall_mem_cons.mpr ⟨by omega, hlt⟩, ?_⟩
        rw [hhigh, List.mapM_cons, hlow, hdigits, byteDigits, show (high * 16 + low) / 16 = high by omega,
          show (high * 16 + low) % 16 = low by omega]
        rfl
      · rintro ⟨hlt, h⟩
        obtain ⟨high, hhigh, h⟩ := Option.bind_eq_some_iff.mp h
        rw [List.mapM_cons] at h
        obtain ⟨ds, hds, h⟩ := Option.bind_eq_some_iff.mp h
        obtain ⟨low, hlow, hds⟩ := Option.bind_eq_some_iff.mp hds
        obtain ⟨ds', hds', hds⟩ := Option.bind_eq_some_iff.mp hds
        obtain rfl := Option.some.inj hds
        have hall := Option.some.inj h
        simp only [byteDigits, List.cons_append, List.nil_append, List.cons.injEq] at hall
        obtain ⟨hhigh', hlow', hrest'⟩ := hall
        obtain ⟨hbyte, hbytes⟩ := List.forall_mem_cons.mp hlt
        have htail := (ih (i := i + 2) hrest).mpr ⟨hbytes, hrest' ▸ hds'⟩
        rw [hhigh, hlow, htail, hhigh', hlow']
        show Except.ok ((byte / 16 * 16 + byte % 16) :: bytes) = _
        rw [show byte / 16 * 16 + byte % 16 = byte by omega]

theorem length_byteDigits (bytes : List ℕ) :
    (bytes.flatMap byteDigits).length = bytes.length * 2 := by
  induction bytes with
  | nil => rfl
  | cons b bytes ih =>
    rw [List.flatMap_cons, List.length_append, ih, List.length_cons]
    show 2 + _ = _
    omega

/-- Digits in pairs are the digits of bytes. -/
theorem exists_byteDigits {digits : List ℕ} {k : ℕ} (hlength : digits.length = k * 2)
    (hlt : ∀ d ∈ digits, d < 16) :
    ∃ bytes : List ℕ, (∀ b ∈ bytes, b < 256) ∧ bytes.flatMap byteDigits = digits := by
  induction k generalizing digits with
  | zero =>
    obtain rfl := List.eq_nil_of_length_eq_zero (hlength.trans (Nat.zero_mul 2))
    exact ⟨[], fun b hb => (List.not_mem_nil hb).elim, rfl⟩
  | succ k ih =>
    rcases digits with _ | ⟨high, _ | ⟨low, rest⟩⟩
    · simp at hlength
    · simp only [List.length_cons, List.length_nil] at hlength
      omega
    · obtain ⟨hhigh, hlow, hrest⟩ : high < 16 ∧ low < 16 ∧ ∀ d ∈ rest, d < 16 := by
        simpa using hlt
      have hpairs : rest.length = k * 2 := by
        simp only [List.length_cons] at hlength
        omega
      obtain ⟨bytes, hbytes, hdigits⟩ := ih hpairs hrest
      refine ⟨(high * 16 + low) :: bytes, List.forall_mem_cons.mpr ⟨by omega, hbytes⟩, ?_⟩
      rw [List.flatMap_cons, hdigits, byteDigits, show (high * 16 + low) / 16 = high by omega,
        show (high * 16 + low) % 16 = low by omega]
      rfl

/-- Bytes write the number their digits write. -/
theorem digitsValue_byteDigits (bytes : List ℕ) :
    digitsValue 16 (bytes.flatMap byteDigits) = digitsValue 256 bytes := by
  have hfrom : ∀ acc, (bytes.flatMap byteDigits).foldl (fun acc d => acc * 16 + d) acc
      = bytes.foldl (fun acc d => acc * 256 + d) acc := by
    induction bytes with
    | nil => exact fun _ => rfl
    | cons b bytes ih =>
      intro acc
      rw [List.flatMap_cons, List.foldl_append, ih, List.foldl_cons]
      show bytes.foldl _ ((acc * 16 + b / 16) * 16 + b % 16) = _
      rw [show (acc * 16 + b / 16) * 16 + b % 16 = acc * 256 + b by omega]
  exact hfrom 0

/-! ## The decoders and the encoders -/

namespace HexCodecs

/-- The digits of a byte, in lower case: `TABLE`, at the high and at the low half. -/
def byteText (byte : UInt8) : List Char :=
  [Nat.digitChar (byte >>> 4).toNat, Nat.digitChar (byte &&& 0x0f).toNat]

/-- **`encode_lower_prefixed`.** -/
def encodeLowerPrefixed (bytes : List UInt8) : String :=
  "0x" ++ String.ofList (bytes.flatMap byteText)

/-- `encode_hex`. -/
def encodeHex (bytes : List UInt8) : String :=
  "0x" ++ String.ofList (bytes.flatMap byteText)

/-- **`decode_prefixed_fixed`**, for `n` bytes. -/
def decodePrefixedFixed (n : ℕ) (input kind : String) : Except HexParseError (List UInt8) := do
  let hex ← orError (stripHexPrefix input) (.missingPrefix kind)
  ensure (decide (hex.length = n * 2)) (.invalidLength kind (n * 2) hex.length)
  let bytes ← (hexPairs 0 hex).mapError (.invalidHex kind)
  pure (bytes.map UInt8.ofNat)

/-- **`decode_prefixed_hex`.** -/
def decodePrefixedHex (value field : String) (allowOddNibbles : Bool) :
    Except RpcChainError (List UInt8) := do
  let hex ← orError (stripHexPrefix value)
    (.malformedRpcResponse (field ++ " must be 0x-prefixed hex"))
  if hex.isEmpty then pure []
  else do
    let hex ← if hex.length % 2 = 0 then pure hex
      else if allowOddNibbles then pure (48 :: hex)
      else .error (.malformedRpcResponse (field ++ " has odd-length hex data"))
    let bytes ← (hexPairs 0 hex).mapError (fun index =>
      .malformedRpcResponse (field ++ " contains invalid hex at char " ++ toString index))
    pure (bytes.map UInt8.ofNat)

variable {n : ℕ} {s kind field : String} {bytes : List UInt8}

/-! ## What is written -/

theorem byteText_eq (byte : UInt8) : byteText byte = (byteDigits byte.toNat).map Nat.digitChar := by
  have hhigh : (byte >>> 4).toNat = byte.toNat / 16 := by
    rw [UInt8.toNat_shiftRight, Nat.shiftRight_eq_div_pow]
    rfl
  have hlow : (byte &&& 0x0f).toNat = byte.toNat % 16 := by
    rw [UInt8.toNat_and]
    exact Nat.and_two_pow_sub_one_eq_mod byte.toNat 4
  rw [byteText, hhigh, hlow]
  rfl

/-- The digits of some bytes. -/
def digitsOf (bytes : List UInt8) : List ℕ := (bytes.map UInt8.toNat).flatMap byteDigits

theorem digitsOf_lt (bytes : List UInt8) : ∀ d ∈ digitsOf bytes, d < 16 := by
  refine byteDigits_lt (fun b hb => ?_)
  obtain ⟨byte, -, rfl⟩ := List.mem_map.mp hb
  exact byte.toNat_lt

theorem utf8_encodeLowerPrefixed (bytes : List UInt8) :
    utf8 (encodeLowerPrefixed bytes) = 48 :: 120 :: (digitsOf bytes).map hexCode := by
  have htext : bytes.flatMap byteText = (digitsOf bytes).map Nat.digitChar := by
    rw [digitsOf, List.flatMap_map, List.map_flatMap]
    exact List.flatMap_congr (fun byte _ => byteText_eq byte)
  rw [encodeLowerPrefixed, utf8_append, htext, utf8_map_digitChar (digitsOf_lt bytes)]
  rfl

theorem stripHexPrefix_encodeLowerPrefixed (bytes : List UInt8) :
    stripHexPrefix (encodeLowerPrefixed bytes) = some ((digitsOf bytes).map hexCode) := by
  unfold stripHexPrefix
  rw [utf8_encodeLowerPrefixed]
  rfl

/-! ## What is read -/

/-- Numbers below 256 as bytes have the digits they had. -/
theorem digitsOf_map_ofNat {bytes : List ℕ} (h : ∀ b ∈ bytes, b < 256) :
    digitsOf (bytes.map UInt8.ofNat) = bytes.flatMap byteDigits := by
  rw [digitsOf, List.map_map]
  congr 1
  exact (List.map_congr_left (fun b hb => UInt8.toNat_ofNat_of_lt' (h b hb))).trans (List.map_id _)

theorem digitsOf_injective {a b : List UInt8} (h : digitsOf a = digitsOf b) : a = b :=
  List.map_injective_iff.mpr (fun _ _ => UInt8.toNat.inj) (byteDigits_injective h)

theorem length_digitsOf (bytes : List UInt8) : (digitsOf bytes).length = bytes.length * 2 := by
  rw [digitsOf, length_byteDigits, List.length_map]

/-- **What a loop over pairs of digits makes of a text**: the bytes with these digits. -/
theorem map_hexPairs_eq_ok_iff {ε : Type} {invalid : ℕ → ε} {hex : List UInt8}
    (heven : hex.length % 2 = 0) :
    ((hexPairs 0 hex).mapError invalid >>= fun bytes => pure (bytes.map UInt8.ofNat)) = .ok bytes
      ↔ hex.mapM hexValue = some (digitsOf bytes) := by
  rw [Except.bind_eq_ok]
  constructor
  · rintro ⟨pairs, hpairs, h⟩
    obtain ⟨hlt, hdigits⟩ := (hexPairs_eq_ok_iff heven).mp (Except.mapError_eq_ok.mp hpairs)
    rw [← Except.pure_eq_ok.mp h, digitsOf_map_ofNat hlt]
    exact hdigits
  · intro h
    refine ⟨bytes.map UInt8.toNat, Except.mapError_eq_ok.mpr ((hexPairs_eq_ok_iff heven).mpr
      ⟨fun b hb => ?_, h⟩), Except.pure_eq_ok.mpr ?_⟩
    · obtain ⟨byte, -, rfl⟩ := List.mem_map.mp hb
      exact byte.toNat_lt
    · rw [List.map_map]
      exact (List.map_congr_left (fun b _ => UInt8.ofNat_toNat)).trans (List.map_id _)

/-- **A text that `decode_prefixed_fixed` takes** is a prefix and the digits of `n` bytes. -/
theorem decodePrefixedFixed_eq_ok_iff :
    decodePrefixedFixed n s kind = .ok bytes
      ↔ bytes.length = n ∧ ∃ hex, stripHexPrefix s = some hex
        ∧ hex.mapM hexValue = some (digitsOf bytes) := by
  unfold decodePrefixedFixed
  rw [Except.bind_eq_ok]
  constructor
  · rintro ⟨hex, hhex, h⟩
    obtain ⟨hlength, h⟩ := ensure_bind_eq_ok.mp h
    have hlength := of_decide_eq_true hlength
    have hdigits := (map_hexPairs_eq_ok_iff (by omega)).mp h
    have hcount := length_of_mapM_hexValue hdigits
    rw [length_digitsOf] at hcount
    exact ⟨by omega, hex, orError_eq_ok.mp hhex, hdigits⟩
  · rintro ⟨rfl, hex, hhex, hdigits⟩
    have hcount := length_of_mapM_hexValue hdigits
    rw [length_digitsOf] at hcount
    exact ⟨hex, orError_eq_ok.mpr hhex, ensure_bind_eq_ok.mpr
      ⟨decide_eq_true hcount.symm, (map_hexPairs_eq_ok_iff (by omega)).mpr hdigits⟩⟩

/-- **A text that `decode_prefixed_hex` takes**, an odd number of digits not being allowed, is
a prefix and the digits of some bytes. -/
theorem decodePrefixedHex_eq_ok_iff :
    decodePrefixedHex s field false = .ok bytes
      ↔ ∃ hex, stripHexPrefix s = some hex ∧ hex.mapM hexValue = some (digitsOf bytes) := by
  unfold decodePrefixedHex
  rw [Except.bind_eq_ok]
  refine exists_congr (fun hex => and_congr orError_eq_ok ?_)
  rcases hex with _ | ⟨first, rest⟩
  · show Except.ok [] = Except.ok bytes ↔ some [] = some (digitsOf bytes)
    rw [Except.ok.injEq, Option.some.injEq]
    exact ⟨fun h => h ▸ rfl, fun h => digitsOf_injective h⟩
  · rw [List.isEmpty_cons, if_neg Bool.false_ne_true]
    by_cases heven : (first :: rest).length % 2 = 0
    · rw [if_pos heven]
      exact map_hexPairs_eq_ok_iff heven
    · rw [if_neg heven, if_neg Bool.false_ne_true]
      refine iff_of_false (fun h => by cases h) (fun h => heven ?_)
      rw [← length_of_mapM_hexValue h, length_digitsOf]
      exact Nat.mul_mod_left _ 2

/-- Where an odd number of digits is allowed, a zero goes in front of it. -/
theorem decodePrefixedHex_odd_eq_ok_iff {hex : List UInt8} (h : stripHexPrefix s = some hex) :
    decodePrefixedHex s field true = .ok bytes
      ↔ ∃ digits, hex.mapM hexValue = some digits
        ∧ digitsOf bytes = if digits.length % 2 = 0 then digits else 0 :: digits := by
  have hread : decodePrefixedHex s field true = .ok bytes
      ↔ (if hex.length % 2 = 0 then hex else 48 :: hex).mapM hexValue = some (digitsOf bytes) := by
    unfold decodePrefixedHex
    simp only [Except.bind_eq_ok, orError_eq_ok, h, Option.some.injEq, exists_eq_left']
    rcases hex with _ | ⟨first, rest⟩
    · show Except.ok [] = Except.ok bytes ↔ some [] = some (digitsOf bytes)
      rw [Except.ok.injEq, Option.some.injEq]
      exact ⟨fun h => h ▸ rfl, fun h => digitsOf_injective h⟩
    · rw [List.isEmpty_cons, if_neg Bool.false_ne_true]
      by_cases heven : (first :: rest).length % 2 = 0
      · rw [if_pos heven, if_pos heven]
        exact map_hexPairs_eq_ok_iff heven
      · rw [if_neg heven, if_neg heven, if_pos trivial]
        refine map_hexPairs_eq_ok_iff ?_
        simp only [List.length_cons] at *
        omega
  rw [hread]
  constructor
  · intro hdigits
    split at hdigits
    · rename_i heven
      refine ⟨_, hdigits, ?_⟩
      rw [if_pos (length_of_mapM_hexValue hdigits ▸ heven)]
    · rename_i hodd
      rw [List.mapM_cons] at hdigits
      obtain ⟨leading, hleading, hdigits⟩ := Option.bind_eq_some_iff.mp hdigits
      obtain ⟨digits, hrest, hdigits⟩ := Option.bind_eq_some_iff.mp hdigits
      obtain rfl : 0 = leading := Option.some.inj hleading
      refine ⟨digits, hrest, ?_⟩
      rw [if_neg (length_of_mapM_hexValue hrest ▸ hodd), ← Option.some.inj hdigits]
  · rintro ⟨digits, hdigits, heq⟩
    rw [heq, length_of_mapM_hexValue hdigits]
    split
    · exact hdigits
    · rw [List.mapM_cons, hdigits]
      rfl

/-- Digits in pairs are the digits of some bytes. -/
theorem exists_digitsOf {digits : List ℕ} (heven : digits.length % 2 = 0)
    (hlt : ∀ d ∈ digits, d < 16) : ∃ bytes, digitsOf bytes = digits := by
  obtain ⟨pairs, hpairs, heq⟩ := exists_byteDigits (k := digits.length / 2) (by omega) hlt
  exact ⟨pairs.map UInt8.ofNat, (digitsOf_map_ofNat hpairs).trans heq⟩

/-- Bytes write the number their digits write. -/
theorem ofBytes_eq_digitsValue (bytes : List UInt8) :
    Abi.ofBytes bytes = digitsValue 16 (digitsOf bytes) := by
  rw [digitsOf, digitsValue_byteDigits, digitsValue, List.foldl_map]
  rfl

/-! ## They agree -/

/-- **The hexadecimal codecs agree.** What is written is read back; what is read is written
as it was, in lower case; and the two decoders take the same texts for the same bytes. -/
theorem hexCodecs_agree (n : ℕ) (kind field : String) :
    (∀ bytes : List UInt8, bytes.length = n →
        decodePrefixedFixed n (encodeLowerPrefixed bytes) kind = .ok bytes)
      ∧ (∀ s bytes, decodePrefixedFixed n s kind = .ok bytes →
        encodeLowerPrefixed bytes = String.ofList (s.toList.map Char.toLower))
      ∧ ∀ s bytes, decodePrefixedFixed n s kind = .ok bytes
        ↔ decodePrefixedHex s field false = .ok bytes ∧ bytes.length = n := by
  refine ⟨fun bytes hlength => ?_, fun s bytes h => ?_, fun s bytes => ?_⟩
  · exact decodePrefixedFixed_eq_ok_iff.mpr ⟨hlength, _, stripHexPrefix_encodeLowerPrefixed bytes,
      mapM_hexValue_hexCode (digitsOf_lt bytes)⟩
  · obtain ⟨-, hex, hhex, hdigits⟩ := decodePrefixedFixed_eq_ok_iff.mp h
    obtain ⟨-, hcodes, hascii, -⟩ := mapM_hexValue_eq_some hdigits
    obtain ⟨x, hs, hx⟩ := stripHexPrefix_eq_some.mp hhex
    refine utf8_injective ?_
    rw [utf8_map_toLower, utf8_encodeLowerPrefixed, hcodes, hs]
    · rcases hx with rfl | rfl <;> rfl
    · rw [hs]
      rcases hx with rfl | rfl <;> simpa using hascii
  · rw [decodePrefixedFixed_eq_ok_iff, decodePrefixedHex_eq_ok_iff, and_comm]

end HexCodecs

/-! ## The numbers the bytes write -/

/-- The number that bytes write, from the bytes or from the pairs of digits. -/
theorem ofBytes_map_ofNat {bytes : List ℕ} (h : ∀ b ∈ bytes, b < 256) :
    Abi.ofBytes (bytes.map UInt8.ofNat) = digitsValue 256 bytes := by
  unfold Abi.ofBytes digitsValue
  rw [List.foldl_map]
  refine List.foldl_ext _ _ 0 (fun acc b hb => ?_)
  rw [UInt8.toNat_ofNat_of_lt' (h b hb)]

/-- **`decode_prefixed_fixed` of a hash or an address** is the number its bytes write. -/
theorem decodePrefixedFixed_eq_map (n : ℕ) (input kind : String) :
    decodePrefixedFixed n input kind
      = (HexCodecs.decodePrefixedFixed n input kind).map
        (fun bytes => BitVec.ofNat (8 * n) (Abi.ofBytes bytes)) := by
  unfold decodePrefixedFixed HexCodecs.decodePrefixedFixed decodeFixed
  cases stripHexPrefix input with
  | none => rfl
  | some hex =>
    by_cases hlength : hex.length = n * 2
    · cases hpairs : hexPairs 0 hex with
      | error i => simp [orError, ensure, hlength, hpairs, Except.mapError, Except.map, Bind.bind, Except.bind]
      | ok bytes =>
        have hlt := ((hexPairs_eq_ok_iff (by omega)).mp hpairs).1
        simp [orError, ensure, hlength, hpairs, Except.mapError, Except.map, Bind.bind, Except.bind,
          pure, Except.pure, ofBytes_map_ofNat hlt]
    · simp [orError, ensure, hlength, Except.map, Bind.bind, Except.bind]

/-- **`parse_hex_u256`** reads with `decode_prefixed_hex`, an odd number of digits being
allowed. -/
theorem parseHexU256_eq (value field : String) :
    parseHexU256 value field = (do
      let bytes ← HexCodecs.decodePrefixedHex value field true
      ensure (decide (bytes.length ≤ 32)) (.malformedRpcResponse (field ++ " overflows uint256"))
      pure (BitVec.ofNat 256 (Abi.ofBytes bytes))) := by
  unfold parseHexU256 HexCodecs.decodePrefixedHex
  cases stripHexPrefix value with
  | none => rfl
  | some hex =>
    rcases hex with _ | ⟨first, rest⟩
    · rfl
    · by_cases heven : (first :: rest).length % 2 = 0
      · simp only [orError, Bind.bind, Except.bind, pure, Except.pure, List.isEmpty_cons,
          Bool.false_eq_true, if_false, if_pos heven]
        cases hpairs : hexPairs 0 (first :: rest) with
        | error i => rfl
        | ok bytes =>
          have hlt := ((hexPairs_eq_ok_iff heven).mp hpairs).1
          simp only [Except.mapError, List.length_map, ofBytes_map_ofNat hlt]
      · have hodd : (48 :: first :: rest).length % 2 = 0 := by
          simp only [List.length_cons] at *
          omega
        simp only [orError, Bind.bind, Except.bind, pure, Except.pure, List.isEmpty_cons,
          Bool.false_eq_true, if_false, if_neg heven, if_true]
        cases hpairs : hexPairs 0 (48 :: first :: rest) with
        | error i => rfl
        | ok bytes =>
          have hlt := ((hexPairs_eq_ok_iff hodd).mp hpairs).1
          simp only [Except.mapError, List.length_map, ofBytes_map_ofNat hlt]
