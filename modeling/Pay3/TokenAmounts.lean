import Mathlib.Data.List.DropRight
import Mathlib.Data.Rat.Cast.Order
import Mathlib.Tactic.FieldSimp
import Mathlib.Tactic.NormNum
import Mathlib.Tactic.Ring
import Pay3.ManualVerify

/-!
# Amounts of a token

The configuration and the callers write an amount in units of a token, as a decimal
number with at most as many digits behind the point as the token has decimals. The
ledgers hold it as the number of the smallest units. `TokenAmount::parse` goes one way
and `to_decimal_string` the other: parsing scales the part before the point and the
part behind it on their own, with checked arithmetic, and printing pads with zeros,
cuts at the point and strips the zeros at the end.

A `DecimalText` is what the parser takes, and its value is a rational number. The
parser gives exactly that value times the power of ten of the decimals, as long as it
fits into 256 bits.
-/

/-! ## The parser -/

/-- `AmountParseError`. -/
inductive AmountParseError
  | empty
  | negative
  | invalidFormat
  | invalidDigits
  | tooManyFractionalDigits (actual decimals : ℕ)
  | overflow
  deriving Repr, DecidableEq

/-- `U256::checked_mul`. -/
def checkedMul (a b : RawAmount) : Option RawAmount :=
  if a.toNat * b.toNat < 2 ^ 256 then some (a * b) else none

/-- `U256::from_str_radix` at radix ten, of digits. -/
def u256OfDigits (digits : List Char) : Option RawAmount :=
  let value := Nat.ofDigitChars 10 digits 0
  if value < 2 ^ 256 then some (BitVec.ofNat 256 value) else none

/-- `parse_decimal_u256`. A text whose bytes are ASCII digits is one whose characters
are. -/
def parseDecimalU256 (s : List Char) : Except AmountParseError RawAmount := do
  ensure (!s.isEmpty) .empty
  ensure (s.all Char.isDigit) .invalidDigits
  orError (u256OfDigits s) .overflow

/-- The loop of `pow10_u256`. -/
def pow10Loop (value : RawAmount) : ℕ → Except AmountParseError RawAmount
  | 0 => .ok value
  | n + 1 => do
    let value ← orError (checkedMul value 10) .overflow
    pow10Loop value n

/-- `pow10_u256`. -/
def pow10U256 (decimals : ℕ) : Except AmountParseError RawAmount := pow10Loop 1 decimals

/-- The part before the point. -/
def parseWhole (whole : List Char) : Except AmountParseError RawAmount :=
  if whole.isEmpty then .ok 0 else parseDecimalU256 whole

/-- The part behind the point, added to the one before it. -/
def addFraction (raw : RawAmount) (fraction : List Char) (decimals : ℕ) :
    Except AmountParseError RawAmount :=
  if fraction.isEmpty then .ok raw
  else do
    let fractionalRaw ← parseDecimalU256 fraction
    let fractionalScale ← pow10U256 (decimals - fraction.length)
    let scaled ← orError (checkedMul fractionalRaw fractionalScale) .overflow
    orError (checkedAdd raw scaled) .overflow

/-- The second half of `parse_token_units`: the parts are digits, and are scaled one by
one. -/
def scaleParts (whole fraction : List Char) (decimals : ℕ) : Except AmountParseError RawAmount := do
  let scale ← pow10U256 decimals
  let wholeRaw ← parseWhole whole
  let raw ← orError (checkedMul wholeRaw scale) .overflow
  addFraction raw fraction decimals

/-- **`parse_token_units`.** The length of the fraction is read when it is known to be
digits, so that its bytes are its characters. -/
def parseTokenUnits (input : String) (decimals : ℕ) : Except AmountParseError RawAmount := do
  let s := (trimText input).toList
  ensure (!s.isEmpty) .empty
  ensure (s.head? != some '-') .negative
  ensure (s.head? != some '+') .invalidFormat
  let parts := s.splitOn '.'
  let whole := parts[0]?.getD []
  let fraction := parts[1]?
  ensure (parts[2]?.isNone) .invalidFormat
  ensure (!(whole.isEmpty && (fraction.getD []).isEmpty)) .empty
  ensure (whole.isEmpty || whole.all Char.isDigit) .invalidDigits
  let fraction := fraction.getD []
  ensure (fraction.all Char.isDigit) .invalidDigits
  ensure (fraction.length ≤ decimals) (.tooManyFractionalDigits fraction.length decimals)
  scaleParts whole fraction decimals

/-- `TokenAmount`. -/
@[ext]
structure TokenAmount where
  raw : RawAmount
  decimals : ℕ
  deriving Repr, DecidableEq

/-- **`TokenAmount::parse`.** -/
def TokenAmount.parse (input : String) (decimals : ℕ) : Except AmountParseError TokenAmount := do
  let raw ← parseTokenUnits input decimals
  pure ⟨raw, decimals⟩

/-- The number with its point, before the zeros at the end are taken off. -/
def pointedText (raw : List Char) (decimals : ℕ) : List Char :=
  if raw.length ≤ decimals then '0' :: '.' :: List.replicate (decimals - raw.length) '0' ++ raw
  else raw.take (raw.length - decimals) ++ '.' :: raw.drop (raw.length - decimals)

/-- **`TokenAmount::to_decimal_string`.** -/
def TokenAmount.toDecimalString (amount : TokenAmount) : String :=
  let raw := amount.raw.toNat.repr.toList
  if amount.decimals = 0 then String.ofList raw
  else
    let value := (pointedText raw amount.decimals).rdropWhile (· == '0')
    String.ofList (if value.getLast? = some '.' then value.dropLast else value)

/-! ## Checked arithmetic

An amount is known by its number, and so each checked operation says which number its
result has. That the number is below `2 ^ 256` is in the result. -/

theorem checkedAdd_eq_some {a b c : RawAmount} :
    checkedAdd a b = some c ↔ c.toNat = a.toNat + b.toNat := by
  unfold checkedAdd
  constructor
  · intro h
    split_ifs at h with hlt
    rw [← Option.some.inj h, BitVec.toNat_add, Nat.mod_eq_of_lt hlt]
  · intro h
    rw [if_pos (h ▸ c.isLt)]
    congr 1
    apply BitVec.eq_of_toNat_eq
    rw [BitVec.toNat_add, ← h, Nat.mod_eq_of_lt c.isLt]

theorem checkedMul_eq_some {a b c : RawAmount} :
    checkedMul a b = some c ↔ c.toNat = a.toNat * b.toNat := by
  unfold checkedMul
  constructor
  · intro h
    split_ifs at h with hlt
    rw [← Option.some.inj h, BitVec.toNat_mul, Nat.mod_eq_of_lt hlt]
  · intro h
    rw [if_pos (h ▸ c.isLt)]
    congr 1
    apply BitVec.eq_of_toNat_eq
    rw [BitVec.toNat_mul, ← h, Nat.mod_eq_of_lt c.isLt]

theorem u256OfDigits_eq_some {digits : List Char} {c : RawAmount} :
    u256OfDigits digits = some c ↔ c.toNat = Nat.ofDigitChars 10 digits 0 := by
  unfold u256OfDigits
  dsimp only
  constructor
  · intro h
    split_ifs at h with hlt
    rw [← Option.some.inj h, BitVec.toNat_ofNat, Nat.mod_eq_of_lt hlt]
  · intro h
    rw [if_pos (h ▸ c.isLt), ← h, BitVec.ofNat_toNat, BitVec.setWidth_eq]

/-- The amount with a number that fits. -/
theorem exists_rawAmount {n : ℕ} (h : n < 2 ^ 256) : ∃ a : RawAmount, a.toNat = n :=
  ⟨BitVec.ofNat 256 n, by rw [BitVec.toNat_ofNat, Nat.mod_eq_of_lt h]⟩

theorem parseDecimalU256_eq_ok {s : List Char} {c : RawAmount} :
    parseDecimalU256 s = .ok c
      ↔ s ≠ [] ∧ s.all Char.isDigit = true ∧ c.toNat = Nat.ofDigitChars 10 s 0 := by
  unfold parseDecimalU256
  rw [ensure_bind_eq_ok, ensure_bind_eq_ok, orError_eq_ok, u256OfDigits_eq_some]
  simp

theorem parseWhole_eq_ok {whole : List Char} {c : RawAmount} (hw : whole.all Char.isDigit = true) :
    parseWhole whole = .ok c ↔ c.toNat = Nat.ofDigitChars 10 whole 0 := by
  unfold parseWhole
  cases whole with
  | nil =>
    rw [List.isEmpty_nil, if_pos rfl, Except.ok.injEq, Nat.ofDigitChars_nil, eq_comm]
    exact BitVec.toNat_inj.symm
  | cons w whole =>
    rw [List.isEmpty_cons, if_neg Bool.false_ne_true, parseDecimalU256_eq_ok]
    simp only [hw, ne_eq, reduceCtorEq, not_false_eq_true, true_and]

/-- The loop multiplies by ten as often as it runs; the products on the way are no
larger than the last one. -/
theorem pow10Loop_eq_ok {n : ℕ} : ∀ {value c : RawAmount}, 0 < value.toNat →
    (pow10Loop value n = .ok c ↔ c.toNat = value.toNat * 10 ^ n) := by
  induction n with
  | zero =>
    intro value c _
    rw [pow10Loop, Except.ok.injEq, pow_zero, mul_one, eq_comm]
    exact BitVec.toNat_inj.symm
  | succ n ih =>
    intro value c hpos
    rw [pow10Loop, Except.bind_eq_ok]
    constructor
    · rintro ⟨next, hnext, hc⟩
      have hmul : next.toNat = value.toNat * 10 := checkedMul_eq_some.mp (orError_eq_ok.mp hnext)
      rw [(ih (by omega)).mp hc, hmul, pow_succ', mul_assoc]
    · intro hc
      have hle : value.toNat * 10 ≤ c.toNat := by
        rw [hc, pow_succ', ← mul_assoc]
        exact Nat.le_mul_of_pos_right _ (pow_pos (by norm_num) n)
      obtain ⟨next, hnext⟩ := exists_rawAmount (hle.trans_lt c.isLt)
      refine ⟨next, orError_eq_ok.mpr (checkedMul_eq_some.mpr hnext), (ih (by omega)).mpr ?_⟩
      rw [hc, hnext, pow_succ', mul_assoc]

theorem pow10U256_eq_ok {n : ℕ} {c : RawAmount} : pow10U256 n = .ok c ↔ c.toNat = 10 ^ n := by
  have h := @pow10Loop_eq_ok n 1 c Nat.one_pos
  rwa [show ((1 : RawAmount).toNat) = 1 from rfl, one_mul] at h

/-- The largest power of ten of 256 bits. -/
theorem pow_lt_of_le {n : ℕ} (hn : n ≤ 77) : 10 ^ n < 2 ^ 256 :=
  (Nat.pow_le_pow_right (by norm_num) hn).trans_lt (by norm_num)

/-- What the part behind the point adds. -/
theorem addFraction_eq_ok {raw c : RawAmount} {fraction : List Char} {d : ℕ} (hd : d ≤ 77)
    (hf : fraction.all Char.isDigit = true) :
    addFraction raw fraction d = .ok c
      ↔ c.toNat
        = raw.toNat + Nat.ofDigitChars 10 fraction 0 * 10 ^ (d - fraction.length) := by
  unfold addFraction
  cases fraction with
  | nil =>
    rw [List.isEmpty_nil, if_pos rfl, Except.ok.injEq, Nat.ofDigitChars_nil, zero_mul, add_zero,
      eq_comm]
    exact BitVec.toNat_inj.symm
  | cons x fraction =>
    rw [List.isEmpty_cons, if_neg Bool.false_ne_true]
    generalize hl : x :: fraction = l at *
    constructor
    · intro h
      obtain ⟨digits, hdigits, h⟩ := Except.bind_eq_ok.mp h
      obtain ⟨scale, hscale, h⟩ := Except.bind_eq_ok.mp h
      obtain ⟨scaled, hscaled, h⟩ := Except.bind_eq_ok.mp h
      rw [checkedAdd_eq_some.mp (orError_eq_ok.mp h),
        checkedMul_eq_some.mp (orError_eq_ok.mp hscaled), pow10U256_eq_ok.mp hscale,
        (parseDecimalU256_eq_ok.mp hdigits).2.2]
    · intro h
      have hne : l ≠ [] := by
        rw [← hl]
        exact List.cons_ne_nil x fraction
      have hpos : 0 < 10 ^ (d - l.length) := pow_pos (by norm_num) _
      have hle := Nat.le_mul_of_pos_right (Nat.ofDigitChars 10 l 0) hpos
      have hlt := c.isLt
      obtain ⟨scaled, hscaled⟩ := exists_rawAmount
        (show Nat.ofDigitChars 10 l 0 * 10 ^ (d - l.length) < 2 ^ 256 by omega)
      obtain ⟨digits, hdigits⟩ := exists_rawAmount
        (show Nat.ofDigitChars 10 l 0 < 2 ^ 256 by omega)
      obtain ⟨scale, hscale⟩ := exists_rawAmount (pow_lt_of_le ((Nat.sub_le d l.length).trans hd))
      refine Except.bind_eq_ok.mpr ⟨digits, parseDecimalU256_eq_ok.mpr ⟨hne, hf, hdigits⟩, ?_⟩
      refine Except.bind_eq_ok.mpr ⟨scale, pow10U256_eq_ok.mpr hscale, ?_⟩
      refine Except.bind_eq_ok.mpr ⟨scaled, orError_eq_ok.mpr (checkedMul_eq_some.mpr ?_), ?_⟩
      · rw [hscaled, hdigits, hscale]
      · rw [orError_eq_ok, checkedAdd_eq_some, h, hscaled]

/-! ## The texts that are taken -/

/-- **A decimal text** with the digits before and behind its point: `1`, `1.`, `.5` and
`1.5` are decimal texts, and `.` is not. -/
structure DecimalText (s whole fraction : List Char) : Prop where
  whole_digits : whole.all Char.isDigit = true
  fraction_digits : fraction.all Char.isDigit = true
  not_empty : ¬(whole = [] ∧ fraction = [])
  shape : (s = whole ∧ fraction = []) ∨ s = whole ++ '.' :: fraction

/-- The units a decimal text stands for. -/
def unitsOf (whole fraction : List Char) (decimals : ℕ) : ℕ :=
  Nat.ofDigitChars 10 whole 0 * 10 ^ decimals
    + Nat.ofDigitChars 10 fraction 0 * 10 ^ (decimals - fraction.length)

section Decimal

variable {s whole fraction : List Char} {d : ℕ} {raw : RawAmount}

theorem point_not_mem {l : List Char} (h : l.all Char.isDigit = true) : '.' ∉ l :=
  fun hmem => absurd (List.all_eq_true.mp h '.' hmem) (by decide)

/-- **A decimal text is split into its parts.** -/
theorem DecimalText.splitOn_point (h : DecimalText s whole fraction) :
    (s.splitOn '.' = [whole] ∧ fraction = []) ∨ s.splitOn '.' = [whole, fraction] := by
  rcases h.shape with ⟨hs, hf⟩ | hs
  · left
    rw [hs]
    exact ⟨List.splitOn_eq_singleton (point_not_mem h.whole_digits), hf⟩
  · right
    rw [hs, List.splitOn_append_cons_self_of_not_mem (point_not_mem h.whole_digits),
      List.splitOn_eq_singleton (point_not_mem h.fraction_digits)]

/-- **The parts of a decimal text are in the text.** -/
theorem DecimalText.parts_eq (h : DecimalText s whole fraction) :
    (s.splitOn '.')[0]?.getD [] = whole ∧ (s.splitOn '.')[1]?.getD [] = fraction := by
  rcases h.splitOn_point with ⟨hs, hf⟩ | hs
  · rw [hs, hf]
    exact ⟨rfl, rfl⟩
  · rw [hs]
    exact ⟨rfl, rfl⟩

theorem DecimalText.isDigit_or_point (h : DecimalText s whole fraction) {c : Char} (hc : c ∈ s) :
    c.isDigit = true ∨ c = '.' := by
  rcases h.shape with ⟨hs, -⟩ | hs
  · rw [hs] at hc
    exact Or.inl (List.all_eq_true.mp h.whole_digits c hc)
  · rw [hs, List.mem_append, List.mem_cons] at hc
    rcases hc with hc | hc | hc
    · exact Or.inl (List.all_eq_true.mp h.whole_digits c hc)
    · exact Or.inr hc
    · exact Or.inl (List.all_eq_true.mp h.fraction_digits c hc)

theorem DecimalText.ne_nil (h : DecimalText s whole fraction) : s ≠ [] := by
  rcases h.shape with ⟨hs, hf⟩ | hs
  · exact fun hnil => h.not_empty ⟨hs.symm.trans hnil, hf⟩
  · rw [hs]
    exact List.append_ne_nil_of_right_ne_nil whole (List.cons_ne_nil '.' fraction)

/-- A decimal text does not begin with a sign. -/
theorem DecimalText.head?_ne (h : DecimalText s whole fraction) {sign : Char}
    (hdigit : sign.isDigit = false) (hpoint : sign ≠ '.') : s.head? ≠ some sign := by
  intro hhead
  rcases h.isDigit_or_point (List.mem_of_mem_head? hhead) with hc | hc
  · exact absurd hc (by rw [hdigit]; exact Bool.false_ne_true)
  · exact hpoint hc

/-- A text with at most one point is its parts. -/
theorem shape_of_splitOn (h : (s.splitOn '.')[2]? = none) :
    (s = (s.splitOn '.')[0]?.getD [] ∧ (s.splitOn '.')[1]?.getD [] = [])
      ∨ s = (s.splitOn '.')[0]?.getD [] ++ '.' :: (s.splitOn '.')[1]?.getD [] := by
  have hjoin : ['.'].intercalate (s.splitOn '.') = s := List.intercalate_splitOn '.'
  generalize hparts : s.splitOn '.' = parts at h hjoin
  rcases parts with _ | ⟨w, _ | ⟨f, _ | ⟨x, parts⟩⟩⟩
  · exact absurd hparts (List.splitOn_ne_nil '.' s)
  · left
    simpa using hjoin.symm
  · right
    simpa using hjoin.symm
  · cases h

/-! ## What the parser answers -/

/-- The second half gives the units, if they fit. -/
theorem scaleParts_eq_ok (hd : d ≤ 77) (hw : whole.all Char.isDigit = true)
    (hf : fraction.all Char.isDigit = true) :
    scaleParts whole fraction d = .ok raw ↔ raw.toNat = unitsOf whole fraction d := by
  unfold scaleParts unitsOf
  constructor
  · intro h
    obtain ⟨scale, hscale, h⟩ := Except.bind_eq_ok.mp h
    obtain ⟨wholeRaw, hwhole, h⟩ := Except.bind_eq_ok.mp h
    obtain ⟨scaled, hscaled, h⟩ := Except.bind_eq_ok.mp h
    rw [(addFraction_eq_ok hd hf).mp h, checkedMul_eq_some.mp (orError_eq_ok.mp hscaled),
      (parseWhole_eq_ok hw).mp hwhole, pow10U256_eq_ok.mp hscale]
  · intro h
    have hpos : 0 < 10 ^ d := pow_pos (by norm_num) _
    have hle := Nat.le_mul_of_pos_right (Nat.ofDigitChars 10 whole 0) hpos
    have hlt := raw.isLt
    obtain ⟨scale, hscale⟩ := exists_rawAmount (pow_lt_of_le hd)
    obtain ⟨wholeRaw, hwhole⟩ := exists_rawAmount
      (show Nat.ofDigitChars 10 whole 0 < 2 ^ 256 by omega)
    obtain ⟨scaled, hscaled⟩ := exists_rawAmount
      (show Nat.ofDigitChars 10 whole 0 * 10 ^ d < 2 ^ 256 by omega)
    refine Except.bind_eq_ok.mpr ⟨scale, pow10U256_eq_ok.mpr hscale, ?_⟩
    refine Except.bind_eq_ok.mpr ⟨wholeRaw, (parseWhole_eq_ok hw).mpr hwhole, ?_⟩
    refine Except.bind_eq_ok.mpr ⟨scaled, orError_eq_ok.mpr (checkedMul_eq_some.mpr ?_), ?_⟩
    · rw [hscaled, hwhole, hscale]
    · rw [addFraction_eq_ok hd hf, h, hscaled]

theorem pow10Loop_failsOnly {value : RawAmount} {n : ℕ} :
    (pow10Loop value n).FailsOnly (· = AmountParseError.overflow) := by
  induction n generalizing value with
  | zero => exact Except.failsOnly_ok value
  | succ n ih => exact Except.FailsOnly.bind (failsOnly_orError rfl) (fun _ _ => ih)

theorem parseDecimalU256_failsOnly (hne : s ≠ []) (hs : s.all Char.isDigit = true) :
    (parseDecimalU256 s).FailsOnly (· = AmountParseError.overflow) := by
  unfold parseDecimalU256
  rw [hs, List.isEmpty_eq_false_iff.mpr hne]
  exact failsOnly_orError rfl

/-- **On digits the second half fails only if something does not fit.** -/
theorem scaleParts_failsOnly (hw : whole.all Char.isDigit = true)
    (hf : fraction.all Char.isDigit = true) :
    (scaleParts whole fraction d).FailsOnly (· = AmountParseError.overflow) := by
  refine Except.FailsOnly.bind pow10Loop_failsOnly (fun _ _ => ?_)
  refine Except.FailsOnly.bind ?_ (fun _ _ => ?_)
  · unfold parseWhole
    split_ifs with hnil
    · exact Except.failsOnly_ok 0
    · exact parseDecimalU256_failsOnly (by simpa using hnil) hw
  refine Except.FailsOnly.bind (failsOnly_orError rfl) (fun _ _ => ?_)
  unfold addFraction
  split_ifs with hnil
  · exact Except.failsOnly_ok _
  refine Except.FailsOnly.bind (parseDecimalU256_failsOnly (by simpa using hnil) hf) (fun _ _ => ?_)
  refine Except.FailsOnly.bind pow10Loop_failsOnly (fun _ _ => ?_)
  exact Except.FailsOnly.bind (failsOnly_orError rfl) (fun _ _ => failsOnly_orError rfl)

/-- **A decimal text passes every check of `parse_token_units`.** -/
theorem parseTokenUnits_of_decimalText {input : String}
    (h : DecimalText (trimText input).toList whole fraction) (hlen : fraction.length ≤ d) :
    parseTokenUnits input d = scaleParts whole fraction d := by
  obtain ⟨hwhole, hfraction⟩ := h.parts_eq
  have hparts : ((trimText input).toList.splitOn '.')[2]?.isNone = true := by
    rcases h.splitOn_point with ⟨hs, -⟩ | hs <;> rw [hs] <;> rfl
  have hboth : (!(whole.isEmpty && fraction.isEmpty)) = true := by
    simpa [imp_iff_not_or] using h.not_empty
  unfold parseTokenUnits
  dsimp only
  rw [hwhole, hfraction, hparts, hboth, h.whole_digits, h.fraction_digits,
    List.isEmpty_eq_false_iff.mpr h.ne_nil, bne_iff_ne.mpr (h.head?_ne (by decide) (by decide)),
    bne_iff_ne.mpr (h.head?_ne (by decide) (by decide)), decide_eq_true hlen, Bool.or_true]
  rfl

/-- **What `parse_token_units` takes is a decimal text** with no more digits behind the
point than there are decimals. -/
theorem exists_of_parseTokenUnits {input : String} (h : parseTokenUnits input d = .ok raw) :
    ∃ whole fraction, DecimalText (trimText input).toList whole fraction
      ∧ fraction.length ≤ d := by
  unfold parseTokenUnits at h
  obtain ⟨-, h⟩ := ensure_bind_eq_ok.mp h
  obtain ⟨-, h⟩ := ensure_bind_eq_ok.mp h
  obtain ⟨-, h⟩ := ensure_bind_eq_ok.mp h
  obtain ⟨hparts, h⟩ := ensure_bind_eq_ok.mp h
  obtain ⟨hboth, h⟩ := ensure_bind_eq_ok.mp h
  obtain ⟨hwhole, h⟩ := ensure_bind_eq_ok.mp h
  obtain ⟨hfraction, h⟩ := ensure_bind_eq_ok.mp h
  obtain ⟨hlen, -⟩ := ensure_bind_eq_ok.mp h
  refine ⟨_, _, ⟨?_, hfraction, ?_, shape_of_splitOn (Option.isNone_iff_eq_none.mp hparts)⟩,
    of_decide_eq_true hlen⟩
  · rcases Bool.or_eq_true_iff.mp hwhole with hnil | hwhole
    · rw [List.isEmpty_iff.mp hnil]
      rfl
    · exact hwhole
  · simpa [imp_iff_not_or] using hboth

/-- The digits behind the point of a text that was taken are not too many. -/
theorem DecimalText.length_le_of_parse {input : String}
    (h : DecimalText (trimText input).toList whole fraction)
    (hparse : parseTokenUnits input d = .ok raw) : fraction.length ≤ d := by
  obtain ⟨whole', fraction', h', hlen⟩ := exists_of_parseTokenUnits hparse
  rw [← h.parts_eq.2, h'.parts_eq.2]
  exact hlen

theorem parseTokenUnits_eq_ok (hd : d ≤ 77) {input : String}
    (h : DecimalText (trimText input).toList whole fraction) (hlen : fraction.length ≤ d) :
    parseTokenUnits input d = .ok raw ↔ raw.toNat = unitsOf whole fraction d := by
  rw [parseTokenUnits_of_decimalText h hlen]
  exact scaleParts_eq_ok hd h.whole_digits h.fraction_digits

theorem parse_eq_ok {input : String} {amount : TokenAmount} :
    TokenAmount.parse input d = .ok amount
      ↔ parseTokenUnits input d = .ok amount.raw ∧ amount.decimals = d := by
  unfold TokenAmount.parse
  rw [Except.bind_eq_ok]
  constructor
  · rintro ⟨raw, hraw, h⟩
    rw [← Except.pure_eq_ok.mp h]
    exact ⟨hraw, rfl⟩
  · rintro ⟨hraw, hdec⟩
    exact ⟨amount.raw, hraw, Except.pure_eq_ok.mpr (TokenAmount.ext rfl hdec.symm)⟩

/-! ## Zeros -/

theorem ofDigitChars_append_zero (l m : List Char) :
    Nat.ofDigitChars 10 (l ++ m) 0
      = Nat.ofDigitChars 10 l 0 * 10 ^ m.length + Nat.ofDigitChars 10 m 0 := by
  rw [Nat.ofDigitChars_append, Nat.ofDigitChars_eq_ofDigitChars_zero, mul_comm]

/-- Zeros in front change nothing. -/
theorem unitsOf_zeros_append (k : ℕ) :
    unitsOf (List.replicate k '0' ++ whole) fraction d = unitsOf whole fraction d := by
  unfold unitsOf
  rw [ofDigitChars_append_zero, Nat.ofDigitChars_replicate_zero]
  simp

/-- Zeros at the end change nothing, as long as they are not too many. -/
theorem unitsOf_append_zeros {m : ℕ} (h : fraction.length + m ≤ d) :
    unitsOf whole (fraction ++ List.replicate m '0') d = unitsOf whole fraction d := by
  unfold unitsOf
  rw [ofDigitChars_append_zero, Nat.ofDigitChars_replicate_zero, List.length_append,
    List.length_replicate, mul_zero, add_zero, mul_assoc, ← pow_add]
  rw [show m + (d - (fraction.length + m)) = d - fraction.length by omega]

/-- With all its digits written, a text is the number without the point. -/
theorem unitsOf_of_length (h : fraction.length = d) :
    unitsOf whole fraction d = Nat.ofDigitChars 10 (whole ++ fraction) 0 := by
  unfold unitsOf
  rw [ofDigitChars_append_zero, h, Nat.sub_self, pow_zero, mul_one]

/-! ## The printer -/

theorem rdropWhile_point (whole fraction : List Char) :
    (whole ++ '.' :: fraction).rdropWhile (· == '0')
      = whole ++ '.' :: fraction.rdropWhile (· == '0') := by
  unfold List.rdropWhile
  rw [List.reverse_append, List.reverse_cons, List.append_assoc, List.dropWhile_append]
  split_ifs with hnil
  · rw [List.isEmpty_iff.mp hnil]
    simp
  · simp

theorem exists_rdropWhile_zeros (l : List Char) :
    ∃ k, l = l.rdropWhile (· == '0') ++ List.replicate k '0' := by
  refine ⟨(l.rtakeWhile (· == '0')).length, ?_⟩
  have hzeros : l.rtakeWhile (· == '0') = List.replicate (l.rtakeWhile (· == '0')).length '0' := by
    refine List.eq_replicate_of_mem (fun c hc => ?_)
    simpa using List.mem_rtakeWhile_imp hc
  rw [← hzeros]
  exact List.rdropWhile_append_rtakeWhile.symm

/-- **The number with its point**, all of its digits written. -/
theorem exists_pointedText {digits : List Char} (h : digits.all Char.isDigit = true) :
    ∃ whole fraction, pointedText digits d = whole ++ '.' :: fraction ∧ whole ≠ []
      ∧ whole.all Char.isDigit = true ∧ fraction.all Char.isDigit = true ∧ fraction.length = d
      ∧ Nat.ofDigitChars 10 (whole ++ fraction) 0 = Nat.ofDigitChars 10 digits 0 := by
  unfold pointedText
  split_ifs with hle
  · refine ⟨['0'], List.replicate (d - digits.length) '0' ++ digits, rfl,
      List.cons_ne_nil '0' [], rfl, ?_, ?_, ?_⟩
    · rw [List.all_append, h, Bool.and_true]
      simp
    · rw [List.length_append, List.length_replicate]
      omega
    · rw [← List.append_assoc, ofDigitChars_append_zero,
        show ['0'] ++ List.replicate (d - digits.length) '0'
          = List.replicate (d - digits.length + 1) '0' from rfl,
        Nat.ofDigitChars_replicate_zero]
      simp
  · refine ⟨_, _, rfl, ?_, ?_, ?_, ?_, ?_⟩
    · rw [ne_eq, List.take_eq_nil_iff, not_or]
      exact ⟨by omega, by rintro rfl; simp at hle⟩
    · rw [List.all_eq_true] at h ⊢
      exact fun c hc => h c (List.mem_of_mem_take hc)
    · rw [List.all_eq_true] at h ⊢
      exact fun c hc => h c (List.mem_of_mem_drop hc)
    · rw [List.length_drop]
      omega
    · rw [List.take_append_drop]

theorem repr_digits (n : ℕ) : n.repr.toList.all Char.isDigit = true := by
  rw [List.all_eq_true, Nat.toList_repr]
  exact fun c hc => Nat.isDigit_of_mem_toDigits (by norm_num) (by norm_num) hc

theorem ofDigitChars_repr (n : ℕ) : Nat.ofDigitChars 10 n.repr.toList 0 = n := by
  rw [Nat.toList_repr, Nat.ofDigitChars_ten_toDigits]

/-- **What `to_decimal_string` prints is a decimal text of the amount.** -/
theorem exists_toDecimalString (amount : TokenAmount) :
    ∃ whole fraction, DecimalText amount.toDecimalString.toList whole fraction
      ∧ fraction.length ≤ amount.decimals
      ∧ unitsOf whole fraction amount.decimals = amount.raw.toNat := by
  unfold TokenAmount.toDecimalString
  dsimp only
  by_cases hd : amount.decimals = 0
  · rw [if_pos hd, String.toList_ofList]
    refine ⟨_, [], ⟨repr_digits _, rfl, ?_, Or.inl ⟨rfl, rfl⟩⟩, Nat.zero_le _, ?_⟩
    · rintro ⟨hnil, -⟩
      exact Nat.toDigits_ne_nil (Nat.toList_repr.symm.trans hnil)
    · rw [unitsOf_of_length (hd ▸ List.length_nil), List.append_nil, ofDigitChars_repr]
  · rw [if_neg hd, String.toList_ofList]
    obtain ⟨whole, digits, htext, hne, hwhole, hdigits, hlen, hvalue⟩ :=
      exists_pointedText (d := amount.decimals) (repr_digits amount.raw.toNat)
    obtain ⟨k, hk⟩ := exists_rdropWhile_zeros digits
    rw [htext, rdropWhile_point]
    generalize digits.rdropWhile (· == '0') = fraction at hk
    subst hk
    rw [List.length_append, List.length_replicate] at hlen
    have hfraction : fraction.all Char.isDigit = true := by
      rw [List.all_append] at hdigits
      exact (Bool.and_eq_true_iff.mp hdigits).1
    refine ⟨whole, fraction, ⟨hwhole, hfraction, fun h => hne h.1, ?_⟩, by omega, ?_⟩
    · -- the point is taken off when no digit is left behind it
      cases fraction with
      | nil =>
        left
        simp
      | cons x fraction =>
        right
        rw [if_neg]
        intro hlast
        have hsome : ((x :: fraction).getLast?).isSome := by simp
        rw [List.getLast?_append, List.getLast?_cons_cons, Option.or_of_isSome hsome] at hlast
        exact point_not_mem hfraction (List.mem_of_getLast? hlast)
    · rw [← unitsOf_append_zeros hlen.le, unitsOf_of_length (by simpa using hlen), hvalue,
        ofDigitChars_repr]

/-! ## There and back -/

theorem isRustWhitespace_of_decimal {c : Char} (hc : c.isDigit = true ∨ c = '.') :
    isRustWhitespace c = false := by
  rcases hc with hc | rfl
  · obtain ⟨hge, hle⟩ := Char.isDigit_iff_toNat.mp hc
    rw [show '0'.toNat = 48 from rfl] at hge
    rw [show '9'.toNat = 57 from rfl] at hle
    unfold isRustWhitespace
    simp only [Bool.or_eq_false_iff, Bool.and_eq_false_iff, decide_eq_false_iff_not,
      beq_eq_false_iff_ne]
    omega
  · rfl

/-- A text without whitespace is trimmed to itself. -/
theorem trimText_eq_self {text : String} (h : ∀ c ∈ text.toList, isRustWhitespace c = false) :
    trimText text = text := by
  have hdrop : ∀ l : List Char, (∀ c ∈ l, isRustWhitespace c = false) →
      l.dropWhile isRustWhitespace = l := by
    intro l hl
    cases l with
    | nil => rfl
    | cons c l => rw [List.dropWhile_cons, hl c List.mem_cons_self, if_neg Bool.false_ne_true]
  unfold trimText
  rw [hdrop _ h, hdrop _ (fun c hc => h c (List.mem_reverse.mp hc)), List.reverse_reverse,
    String.ofList_toList]

/-- **The value of a decimal text**, a rational number. -/
def decimalValue (whole fraction : List Char) : ℚ :=
  Nat.ofDigitChars 10 whole 0 + Nat.ofDigitChars 10 fraction 0 / 10 ^ fraction.length

theorem decimalValue_mul (h : fraction.length ≤ d) :
    decimalValue whole fraction * 10 ^ d = unitsOf whole fraction d := by
  obtain ⟨k, rfl⟩ := Nat.exists_eq_add_of_le h
  unfold decimalValue unitsOf
  rw [Nat.add_sub_cancel_left, add_mul, pow_add]
  push_cast
  field_simp
  ring

/-- Zeros in front and at the end change nothing. -/
theorem parseTokenUnits_of_zeros (hd : d ≤ 77) {input input' : String} {k m : ℕ}
    (h : DecimalText (trimText input).toList whole fraction)
    (h' : DecimalText (trimText input').toList (List.replicate k '0' ++ whole)
      (fraction ++ List.replicate m '0')) (hlen : fraction.length + m ≤ d) :
    parseTokenUnits input' d = parseTokenUnits input d := by
  have hlen' : (fraction ++ List.replicate m '0').length ≤ d := by simpa using hlen
  rw [parseTokenUnits_of_decimalText h' hlen', parseTokenUnits_of_decimalText h (by omega)]
  refine Except.eq_of_failsOnly (scaleParts_failsOnly h'.whole_digits h'.fraction_digits)
    (scaleParts_failsOnly h.whole_digits h.fraction_digits) (fun raw => ?_)
  rw [scaleParts_eq_ok hd h'.whole_digits h'.fraction_digits,
    scaleParts_eq_ok hd h.whole_digits h.fraction_digits, unitsOf_zeros_append,
    unitsOf_append_zeros hlen]

/-- **Amounts of a token go there and back.** An amount is printed so that it is read
back as it was. A text is read exactly when it is a decimal text, with no more digits
behind the point than the token has decimals, whose value in smallest units fits into
256 bits, and then that is the amount. Zeros in front and at the end change nothing. -/
theorem tokenAmounts_round_trip (hd : d ≤ 77) :
    (∀ raw : RawAmount, TokenAmount.parse (TokenAmount.toDecimalString ⟨raw, d⟩) d = .ok ⟨raw, d⟩)
      ∧ (∀ input : String, (∃ amount, TokenAmount.parse input d = .ok amount)
        ↔ ∃ whole fraction, DecimalText (trimText input).toList whole fraction
          ∧ fraction.length ≤ d ∧ decimalValue whole fraction * 10 ^ d < 2 ^ 256)
      ∧ (∀ (input : String) (whole fraction : List Char) (amount : TokenAmount),
        DecimalText (trimText input).toList whole fraction →
        TokenAmount.parse input d = .ok amount →
        (amount.raw.toNat : ℚ) = decimalValue whole fraction * 10 ^ d ∧ amount.decimals = d)
      ∧ (∀ (input input' : String) (whole fraction : List Char) (k m : ℕ),
        DecimalText (trimText input).toList whole fraction →
        DecimalText (trimText input').toList (List.replicate k '0' ++ whole)
          (fraction ++ List.replicate m '0') →
        fraction.length + m ≤ d →
        TokenAmount.parse input' d = TokenAmount.parse input d) := by
  refine ⟨fun raw => ?_, fun input => ⟨?_, ?_⟩, ?_, ?_⟩
  · obtain ⟨whole, fraction, htext, hlen, hunits⟩ := exists_toDecimalString ⟨raw, d⟩
    have htrim :=
      trimText_eq_self (fun c hc => isRustWhitespace_of_decimal (htext.isDigit_or_point hc))
    rw [← htrim] at htext
    exact parse_eq_ok.mpr ⟨(parseTokenUnits_eq_ok hd htext hlen).mpr hunits.symm, rfl⟩
  · rintro ⟨amount, h⟩
    have hparse := (parse_eq_ok.mp h).1
    obtain ⟨whole, fraction, htext, hlen⟩ := exists_of_parseTokenUnits hparse
    refine ⟨whole, fraction, htext, hlen, ?_⟩
    rw [decimalValue_mul hlen, ← (parseTokenUnits_eq_ok hd htext hlen).mp hparse]
    exact_mod_cast amount.raw.isLt
  · rintro ⟨whole, fraction, htext, hlen, hlt⟩
    rw [decimalValue_mul hlen] at hlt
    obtain ⟨raw, hraw⟩ := exists_rawAmount (n := unitsOf whole fraction d) (by exact_mod_cast hlt)
    exact ⟨⟨raw, d⟩, parse_eq_ok.mpr ⟨(parseTokenUnits_eq_ok hd htext hlen).mpr hraw, rfl⟩⟩
  · intro input whole fraction amount htext h
    obtain ⟨hparse, hdec⟩ := parse_eq_ok.mp h
    have hlen := htext.length_le_of_parse hparse
    rw [decimalValue_mul hlen, (parseTokenUnits_eq_ok hd htext hlen).mp hparse]
    exact ⟨rfl, hdec⟩
  · intro input input' whole fraction k m htext htext' hlen
    unfold TokenAmount.parse
    rw [parseTokenUnits_of_zeros hd htext htext' hlen]

/-- One and a half million units of a token with six decimals. -/
theorem tokenAmounts_round_trip_six :
    TokenAmount.toDecimalString ⟨1500000, 6⟩ = "1.5"
      ∧ TokenAmount.parse "1.5" 6 = .ok ⟨1500000, 6⟩ :=
  ⟨by decide +kernel, by
    have h := (tokenAmounts_round_trip (d := 6) (by norm_num)).1 1500000
    rwa [show TokenAmount.toDecimalString ⟨1500000, 6⟩ = "1.5" by decide +kernel] at h⟩

end Decimal
