import Pay3.Config
import Pay3.OrderRequests
import Pay3.TokenAmounts
import Mathlib.Computability.RegularExpressions

/-!
# Derivation paths

The path of a segment is printed by the segment, checked by the signer and by the wallet with a
validator each, checked by the table of child accounts with a regular expression, and is what a
private key is derived at. Two segments with one path would have one key, and a path that one of
the checks refuses would be an order without an address.

Every check takes the path of every segment, and the indices in the path are those of the
segment; and whatever a validator takes is the path of some segment, up to zeros in front of an
index (`derivationPaths_faithful`).
-/

/-- The error of the signer's validator. -/
inductive SignerError
  | invalidDerivationPath (path : String)
  deriving DecidableEq

/-! ## The validators

The signer and the wallet have the same text for theirs, less the error. -/

/-- `path.split('/')`. -/
def pathParts (path : String) : List (List Char) := path.toList.splitOn '/'

/-- **`valid_decimal_index`.** -/
def validDecimalIndex (value : List Char) : Bool :=
  if value.isEmpty || !value.all Char.isDigit then false
  else
    match Config.parseUnsigned (2 ^ 32) (String.ofList value) with
    | none => false
    | some index => decide (index ≤ maxDerivationIndex)

/-- `valid_hardened_index`. -/
def validHardenedIndex : Option (List Char) → Bool
  | none => false
  | some part =>
    -- `strip_suffix`
    match part.dropSuffix? "'".toList with
    | none => false
    | some index => validDecimalIndex index

/-- `valid_plain_index`. -/
def validPlainIndex (part : Option (List Char)) : Bool := part.any validDecimalIndex

/-- Whether a path is valid: its parts, one after the other. -/
def validPath (path : String) : Bool :=
  let parts := pathParts path
  decide (parts[0]? = some "m".toList) && decide (parts[1]? = some "44'".toList)
    && decide (parts[2]? = some "60'".toList) && validHardenedIndex parts[3]?
    && validPlainIndex parts[4]? && validPlainIndex parts[5]? && parts[6]?.isNone

/-- **`validate_derivation_path`** of the signer. -/
def Signer.validateDerivationPath (path : String) : Except SignerError Unit :=
  if validPath path then .ok () else .error (.invalidDerivationPath path)

/-- **`validate_derivation_path`** of the wallet. -/
def Wallet.validateDerivationPath (path : String) : Except WalletError Unit :=
  if validPath path then .ok () else .error (.invalidDerivationPath path)

/-! ## The check of the table -/

section Pattern

open RegularExpression

/-- The pattern of one text. -/
def literal (text : List Char) : RegularExpression Char :=
  text.foldr (fun c pattern => char c * pattern) 1

/-- The pattern of one character of a text. -/
def anyOf (text : List Char) : RegularExpression Char :=
  text.foldr (fun c pattern => char c + pattern) 0

/-- `[0-9]+`. -/
def digitsPattern : RegularExpression Char :=
  anyOf "0123456789".toList * star (anyOf "0123456789".toList)

/-- **The `CHECK` on `derivation_path`** of `child_accounts`. -/
def derivationPathPattern : RegularExpression Char :=
  literal "m/44'/60'/".toList * (digitsPattern * (literal "'/".toList
    * (digitsPattern * (literal "/".toList * digitsPattern))))

end Pattern

/-! ## Reading a path back -/

/-- An index of a path. -/
def readIndex (value : List Char) : Option ℕ := Config.parseUnsigned (2 ^ 32) (String.ofList value)

/-- **The three indices of a path**, as a segment if they are in range. -/
def readDerivationPath (path : String) : Option DerivationSegment := do
  let parts := pathParts path
  let accountIndex ← (parts[3]?.bind (fun part => part.dropSuffix? "'".toList)).bind readIndex
  let changeIndex ← parts[4]?.bind readIndex
  let addressIndex ← parts[5]?.bind readIndex
  (DerivationSegment.new accountIndex changeIndex addressIndex).toOption

/-- The parts of a path with these indices. -/
def partsOf (account change address : List Char) : List (List Char) :=
  ["m".toList, "44'".toList, "60'".toList, account ++ "'".toList, change, address]

/-! ## Indices -/

variable {value account change address : List Char} {path : String}

theorem digitsValue_digitChars (value : List Char) :
    digitsValue 10 (value.map (fun c => c.toNat - 48)) = Nat.ofDigitChars 10 value 0 := by
  unfold digitsValue
  rw [Nat.ofDigitChars_eq_foldl, List.foldl_map]
  simp only [Nat.mul_comm]
  rfl

theorem parseUnsigned_of_isDigit (hne : value ≠ []) (h : value.all Char.isDigit = true)
    (bound : ℕ) : Config.parseUnsigned bound (String.ofList value)
      = if Nat.ofDigitChars 10 value 0 < bound then some (Nat.ofDigitChars 10 value 0)
        else none := by
  cases value with
  | nil => exact absurd rfl hne
  | cons c rest =>
    have hplus : c ≠ '+' := by
      rintro rfl
      exact absurd (List.all_eq_true.mp h _ List.mem_cons_self) (by decide)
    unfold Config.parseUnsigned
    rw [String.toList_ofList]
    split
    · next heq => exact absurd (List.cons.inj heq).1 hplus
    · simp only [digitsValue_digitChars, h, hne, ne_eq, not_false_eq_true, true_and]

/-- **A valid index** is a number in range, in decimal. -/
theorem validDecimalIndex_iff : validDecimalIndex value = true ↔ value ≠ []
    ∧ value.all Char.isDigit = true ∧ Nat.ofDigitChars 10 value 0 ≤ maxDerivationIndex := by
  unfold validDecimalIndex
  by_cases hne : value = []
  · simp [hne]
  by_cases h : value.all Char.isDigit = true
  · have hbound : maxDerivationIndex < 2 ^ 32 := by decide
    rw [if_neg (by simp [hne, h]), parseUnsigned_of_isDigit hne h]
    by_cases hlt : Nat.ofDigitChars 10 value 0 < 2 ^ 32
    · rw [if_pos hlt]
      simp [hne, h]
    · have hgt : ¬ Nat.ofDigitChars 10 value 0 ≤ maxDerivationIndex := by omega
      rw [if_neg hlt]
      simp [hgt]
  · simp [h]

/-- A valid index is read back. -/
theorem readIndex_of_valid (h : validDecimalIndex value = true) :
    readIndex value = some (Nat.ofDigitChars 10 value 0) := by
  obtain ⟨hne, hdigits, hle⟩ := validDecimalIndex_iff.mp h
  have hlt : Nat.ofDigitChars 10 value 0 < 2 ^ 32 := lt_of_le_of_lt hle (by decide)
  unfold readIndex
  rw [parseUnsigned_of_isDigit hne hdigits, if_pos hlt]

/-- What a number is printed as. -/
theorem validDecimalIndex_repr {n : ℕ} (h : n ≤ maxDerivationIndex) :
    validDecimalIndex n.repr.toList = true := by
  refine validDecimalIndex_iff.mpr ⟨?_, repr_digits n, ?_⟩
  · rw [Nat.toList_repr]
    exact Nat.toDigits_ne_nil
  · rwa [ofDigitChars_repr]

/-! ## Parts -/

theorem slash_not_mem (h : value.all Char.isDigit = true) : '/' ∉ value :=
  fun hslash => absurd (List.all_eq_true.mp h _ hslash) (by decide)

/-- The path of a segment is taken apart at its slashes. -/
theorem pathParts_derivationPath (s : DerivationSegment) :
    pathParts s.derivationPath = partsOf s.accountIndex.repr.toList s.changeIndex.repr.toList
      s.addressIndex.repr.toList := by
  have hpath : s.derivationPath.toList = ['/'].intercalate (partsOf s.accountIndex.repr.toList
      s.changeIndex.repr.toList s.addressIndex.repr.toList) := by
    unfold DerivationSegment.derivationPath
    simp only [String.toList_append]
    simp [partsOf, List.intercalate, toString]
  unfold pathParts
  rw [hpath]
  refine List.splitOn_intercalate '/' (fun part hpart => ?_) (List.cons_ne_nil _ _)
  have haccount := slash_not_mem (repr_digits s.accountIndex)
  have hchange := slash_not_mem (repr_digits s.changeIndex)
  have haddress := slash_not_mem (repr_digits s.addressIndex)
  simp only [partsOf, List.mem_cons, List.not_mem_nil, or_false] at hpart
  rcases hpart with rfl | rfl | rfl | rfl | rfl | rfl
  · decide
  · decide
  · decide
  · rw [List.mem_append, not_or]
    exact ⟨haccount, by decide⟩
  · exact hchange
  · exact haddress

theorem dropSuffix?_apostrophe : (account ++ "'".toList).dropSuffix? "'".toList = some account :=
  List.dropSuffix?_eq_some_iff.mpr ⟨_, rfl, beq_self_eq_true _⟩

theorem validHardenedIndex_eq_true {part : Option (List Char)} (h : validHardenedIndex part = true) :
    ∃ index, part = some (index ++ "'".toList) ∧ validDecimalIndex index = true := by
  unfold validHardenedIndex at h
  cases part with
  | none => cases h
  | some part =>
    cases hindex : part.dropSuffix? "'".toList with
    | none =>
      simp only [hindex] at h
      cases h
    | some index =>
      simp only [hindex] at h
      obtain ⟨suffix, rfl, hsuffix⟩ := List.dropSuffix?_eq_some_iff.mp hindex
      exact ⟨index, by rw [eq_of_beq hsuffix], h⟩

/-- **A valid path** has the parts of three valid indices. -/
theorem validPath_iff : validPath path = true ↔ ∃ account change address,
    pathParts path = partsOf account change address ∧ validDecimalIndex account = true
      ∧ validDecimalIndex change = true ∧ validDecimalIndex address = true := by
  unfold validPath
  simp only [Bool.and_eq_true, decide_eq_true_eq]
  constructor
  · rintro ⟨⟨⟨⟨⟨⟨hm, hpurpose⟩, hcoin⟩, haccount⟩, hchange⟩, haddress⟩, hend⟩
    obtain ⟨account, hthird, haccount⟩ := validHardenedIndex_eq_true haccount
    obtain ⟨change, hfourth, hchange⟩ := (Option.any_eq_true _ _).mp hchange
    obtain ⟨address, hfifth, haddress⟩ := (Option.any_eq_true _ _).mp haddress
    refine ⟨account, change, address, List.ext_getElem? (fun n => ?_), haccount, hchange, haddress⟩
    rcases n with _ | _ | _ | _ | _ | _ | n
    · exact hm
    · exact hpurpose
    · exact hcoin
    · exact hthird
    · exact hfourth
    · exact hfifth
    · -- there is no seventh part
      have hlength := List.getElem?_eq_none_iff.mp (Option.isNone_iff_eq_none.mp hend)
      rw [List.getElem?_eq_none (by omega)]
      rfl
  · rintro ⟨account, change, address, hparts, haccount, hchange, haddress⟩
    rw [hparts]
    refine ⟨⟨⟨⟨⟨⟨rfl, rfl⟩, rfl⟩, ?_⟩, hchange⟩, haddress⟩, rfl⟩
    show validHardenedIndex (some (account ++ "'".toList)) = true
    unfold validHardenedIndex
    simp only [dropSuffix?_apostrophe]
    exact haccount

/-- **A valid path is read back**, as a segment in range. -/
theorem exists_readDerivationPath (hparts : pathParts path = partsOf account change address)
    (haccount : validDecimalIndex account = true) (hchange : validDecimalIndex change = true)
    (haddress : validDecimalIndex address = true) :
    ∃ s, readDerivationPath path = some s ∧ s.accountIndex = Nat.ofDigitChars 10 account 0
      ∧ s.changeIndex = Nat.ofDigitChars 10 change 0
      ∧ s.addressIndex = Nat.ofDigitChars 10 address 0 := by
  have hle := (validDecimalIndex_iff.mp haccount).2.2
  have hle' := (validDecimalIndex_iff.mp hchange).2.2
  have hle'' := (validDecimalIndex_iff.mp haddress).2.2
  refine ⟨⟨_, _, _, hle, hle', hle''⟩, ?_, rfl, rfl, rfl⟩
  have hthird : ((partsOf account change address)[3]?.bind
      (fun part => part.dropSuffix? "'".toList)).bind readIndex
        = some (Nat.ofDigitChars 10 account 0) := by
    show ((account ++ "'".toList).dropSuffix? "'".toList).bind readIndex = _
    rw [dropSuffix?_apostrophe]
    exact readIndex_of_valid haccount
  have hfourth : (partsOf account change address)[4]?.bind readIndex
      = some (Nat.ofDigitChars 10 change 0) := readIndex_of_valid hchange
  have hfifth : (partsOf account change address)[5]?.bind readIndex
      = some (Nat.ofDigitChars 10 address 0) := readIndex_of_valid haddress
  unfold readDerivationPath
  simp only [hparts, hthird, hfourth, hfifth, Option.bind_eq_bind, Option.bind_some]
  unfold DerivationSegment.new
  rw [dif_pos hle, dif_pos hle', dif_pos hle'']
  rfl

/-! ## The pattern -/

section Pattern

open RegularExpression

theorem rmatch_append {P Q : RegularExpression Char} {t u : List Char} (ht : P.rmatch t = true)
    (hu : Q.rmatch u = true) : (P * Q).rmatch (t ++ u) = true :=
  (mul_rmatch_iff P Q _).mpr ⟨t, u, rfl, ht, hu⟩

theorem rmatch_literal (text : List Char) : (literal text).rmatch text = true := by
  induction text with
  | nil => rfl
  | cons c text ih => exact rmatch_append ((char_rmatch_iff c [c]).mpr rfl) ih

theorem rmatch_anyOf {text : List Char} {c : Char} (h : c ∈ text) :
    (anyOf text).rmatch [c] = true := by
  induction text with
  | nil => exact absurd h List.not_mem_nil
  | cons d text ih =>
    refine (add_rmatch_iff _ _ _).mpr ?_
    rcases List.mem_cons.mp h with rfl | h
    · exact Or.inl ((char_rmatch_iff c [c]).mpr rfl)
    · exact Or.inr (ih h)

/-- The digits are ten. -/
theorem mem_digits_of_isDigit {c : Char} (h : c.isDigit = true) : c ∈ "0123456789".toList := by
  obtain ⟨hlow, hhigh⟩ := Char.isDigit_iff_toNat.mp h
  rw [← Char.ofNat_toNat c]
  generalize c.toNat = n at hlow hhigh
  have hlow : 48 ≤ n := hlow
  have hhigh : n ≤ 57 := hhigh
  interval_cases n <;> decide

/-- Some digits match `[0-9]+`. -/
theorem rmatch_digitsPattern (h : validDecimalIndex value = true) :
    digitsPattern.rmatch value = true := by
  obtain ⟨hne, hdigits, -⟩ := validDecimalIndex_iff.mp h
  have hone : ∀ c ∈ value, (anyOf "0123456789".toList).rmatch [c] = true :=
    fun c hc => rmatch_anyOf (mem_digits_of_isDigit (List.all_eq_true.mp hdigits c hc))
  obtain ⟨c, rest, rfl⟩ := List.exists_cons_of_ne_nil hne
  refine rmatch_append (t := [c]) (u := rest) (hone c List.mem_cons_self)
    ((star_rmatch_iff _ rest).mpr ⟨rest.map (fun c => [c]), ?_, fun t ht => ?_⟩)
  · exact (List.flatMap_singleton' rest).symm
  · obtain ⟨d, hd, rfl⟩ := List.mem_map.mp ht
    exact ⟨List.cons_ne_nil _ _, hone d (List.mem_cons_of_mem _ hd)⟩

/-- **The table takes every valid path.** -/
theorem rmatch_of_validPath (h : validPath path = true) :
    derivationPathPattern.rmatch path.toList = true := by
  obtain ⟨account, change, address, hparts, haccount, hchange, haddress⟩ := validPath_iff.mp h
  have hpath : path.toList = "m/44'/60'/".toList ++ (account ++ ("'/".toList
      ++ (change ++ ("/".toList ++ address)))) := by
    have hjoin : ['/'].intercalate (pathParts path) = path.toList := List.intercalate_splitOn '/'
    rw [← hjoin, hparts]
    simp [partsOf, List.intercalate]
  rw [hpath]
  exact rmatch_append (rmatch_literal _) (rmatch_append (rmatch_digitsPattern haccount)
    (rmatch_append (rmatch_literal _) (rmatch_append (rmatch_digitsPattern hchange)
      (rmatch_append (rmatch_literal _) (rmatch_digitsPattern haddress)))))

end Pattern

/-! ## The path of a segment -/

theorem validPath_derivationPath (s : DerivationSegment) : validPath s.derivationPath = true :=
  validPath_iff.mpr ⟨_, _, _, pathParts_derivationPath s, validDecimalIndex_repr s.account_le,
    validDecimalIndex_repr s.change_le, validDecimalIndex_repr s.address_le⟩

/-- **The segment is read back** from its path. -/
theorem readDerivationPath_derivationPath (s : DerivationSegment) :
    readDerivationPath s.derivationPath = some s := by
  obtain ⟨s', hread, haccount, hchange, haddress⟩ :=
    exists_readDerivationPath (pathParts_derivationPath s) (validDecimalIndex_repr s.account_le)
      (validDecimalIndex_repr s.change_le) (validDecimalIndex_repr s.address_le)
  rw [ofDigitChars_repr] at haccount hchange haddress
  rw [hread, Option.some.injEq]
  refine DerivationSegment.lexKey_injective ?_
  unfold DerivationSegment.lexKey
  rw [haccount, hchange, haddress]

/-- Different segments have different paths. -/
theorem derivationPath_injective : Function.Injective DerivationSegment.derivationPath := by
  intro s s' h
  have hread := readDerivationPath_derivationPath s
  rw [h, readDerivationPath_derivationPath s'] at hread
  exact (Option.some.inj hread).symm

/-- **Derivation paths name segments faithfully.** The path of a segment is taken by both
validators and by the table, and the segment is read back from it; and what a validator takes
is read back as a segment. -/
theorem derivationPaths_faithful :
    (∀ s : DerivationSegment,
      Signer.validateDerivationPath s.derivationPath = .ok ()
        ∧ Wallet.validateDerivationPath s.derivationPath = .ok ()
        ∧ derivationPathPattern.rmatch s.derivationPath.toList = true
        ∧ readDerivationPath s.derivationPath = some s)
      ∧ Function.Injective DerivationSegment.derivationPath
      ∧ ∀ path : String,
        Signer.validateDerivationPath path = .ok () ∨ Wallet.validateDerivationPath path = .ok () →
          ∃ s, readDerivationPath path = some s ∧ s.accountIndex ≤ 2 ^ 31 - 1
            ∧ s.changeIndex ≤ 2 ^ 31 - 1 ∧ s.addressIndex ≤ 2 ^ 31 - 1 := by
  refine ⟨fun s => ?_, derivationPath_injective, fun path h => ?_⟩
  · have hvalid := validPath_derivationPath s
    exact ⟨if_pos hvalid, if_pos hvalid, rmatch_of_validPath hvalid,
      readDerivationPath_derivationPath s⟩
  · have hvalid : validPath path = true := by
      unfold Signer.validateDerivationPath Wallet.validateDerivationPath at h
      by_contra hno
      rw [if_neg hno, if_neg hno] at h
      rcases h with h | h <;> cases h
    obtain ⟨account, change, address, hparts, haccount, hchange, haddress⟩ :=
      validPath_iff.mp hvalid
    obtain ⟨s, hread, -⟩ := exists_readDerivationPath hparts haccount hchange haddress
    exact ⟨s, hread, s.account_le, s.change_le, s.address_le⟩
