import Mathlib.Data.List.Basic
import Mathlib.Tactic.IntervalCases

/-!
# JSON values

The values that `serde_json` reads and writes. Two facts about them are used
throughout: a structure takes its fields from an object by name or from an array
in order, and the text of a string shows where the string ends, since an escaped
text has no quote of its own.
-/

/-! ## Strings -/

/-- One character of a JSON string, as `serde_json` writes it. -/
def jsonEscape (c : Char) : List Char :=
  if c = '"' then ['\\', '"']
  else if c = '\\' then ['\\', '\\']
  else if c.toNat = 8 then ['\\', 'b']
  else if c.toNat = 9 then ['\\', 't']
  else if c.toNat = 10 then ['\\', 'n']
  else if c.toNat = 12 then ['\\', 'f']
  else if c.toNat = 13 then ['\\', 'r']
  else if c.toNat < 32 then
    ['\\', 'u', '0', '0', Nat.digitChar (c.toNat / 16), Nat.digitChar (c.toNat % 16)]
  else [c]

/-- A JSON string. -/
def jsonString (s : String) : String :=
  "\"" ++ String.ofList (s.toList.flatMap jsonEscape) ++ "\""

/-- The value of a hexadecimal digit. -/
def hexDigitValue (c : Char) : ℕ :=
  ((List.range 16).find? (fun n => decide (Nat.digitChar n = c))).getD 0

/-- One character of a JSON string, read back. -/
def jsonUnescape : List Char → Option (Char × List Char)
  | '\\' :: 'b' :: rest => some (Char.ofNat 8, rest)
  | '\\' :: 't' :: rest => some (Char.ofNat 9, rest)
  | '\\' :: 'n' :: rest => some (Char.ofNat 10, rest)
  | '\\' :: 'f' :: rest => some (Char.ofNat 12, rest)
  | '\\' :: 'r' :: rest => some (Char.ofNat 13, rest)
  | '\\' :: 'u' :: '0' :: '0' :: x :: y :: rest =>
    some (Char.ofNat (16 * hexDigitValue x + hexDigitValue y), rest)
  | '\\' :: c :: rest => some (c, rest)
  | c :: rest => some (c, rest)
  | [] => none

/-- What is written for a character is read back as that character. -/
theorem jsonUnescape_jsonEscape (c : Char) (rest : List Char) :
    jsonUnescape (jsonEscape c ++ rest) = some (c, rest) := by
  have hofNat : ∀ n, c.toNat = n → c = Char.ofNat n := fun n h => h ▸ (Char.ofNat_toNat c).symm
  unfold jsonEscape
  by_cases hquote : c = '"'
  · subst hquote
    rfl
  by_cases hslash : c = '\\'
  · subst hslash
    rfl
  rw [if_neg hquote, if_neg hslash]
  by_cases hcontrol : c.toNat < 32
  · -- one case for each control character
    obtain ⟨n, hn⟩ : ∃ n, c.toNat = n := ⟨_, rfl⟩
    obtain rfl := hofNat n hn
    rw [hn] at hcontrol ⊢
    clear hquote hslash hn hofNat
    interval_cases n <;> rfl
  · rw [if_neg (by omega), if_neg (by omega), if_neg (by omega), if_neg (by omega),
      if_neg (by omega), if_neg hcontrol]
    unfold jsonUnescape
    split <;> simp_all

/-- So the text of a character shows where it ends. -/
theorem jsonEscape_append_inj {c c' : Char} {rest rest' : List Char}
    (h : jsonEscape c ++ rest = jsonEscape c' ++ rest') : c = c' ∧ rest = rest' := by
  have hread := congrArg jsonUnescape h
  rw [jsonUnescape_jsonEscape, jsonUnescape_jsonEscape] at hread
  exact Prod.mk.inj (Option.some.inj hread)

/-- No character is written as a closing quote. -/
theorem jsonEscape_append_ne_quote (c : Char) (rest rest' : List Char) :
    jsonEscape c ++ rest ≠ '"' :: rest' := by
  intro h
  have hread := congrArg jsonUnescape h
  rw [jsonUnescape_jsonEscape] at hread
  obtain ⟨rfl, rfl⟩ := Prod.mk.inj (Option.some.inj hread)
  cases h

/-- **A JSON string is read back** up to its closing quote. -/
theorem jsonString_append_inj {s s' : String} {rest rest' : List Char}
    (h : (jsonString s).toList ++ rest = (jsonString s').toList ++ rest') :
    s = s' ∧ rest = rest' := by
  have hscan : ∀ l l' : List Char, l.flatMap jsonEscape ++ '"' :: rest
      = l'.flatMap jsonEscape ++ '"' :: rest' → l = l' ∧ rest = rest' := by
    intro l
    induction l with
    | nil =>
      intro l' hl
      cases l' with
      | nil => exact ⟨rfl, (List.cons.inj hl).2⟩
      | cons c' l' =>
        rw [List.flatMap_cons, List.append_assoc] at hl
        exact absurd hl.symm (jsonEscape_append_ne_quote c' _ _)
    | cons c l ih =>
      intro l' hl
      cases l' with
      | nil =>
        rw [List.flatMap_cons, List.append_assoc] at hl
        exact absurd hl (jsonEscape_append_ne_quote c _ _)
      | cons c' l' =>
        rw [List.flatMap_cons, List.flatMap_cons, List.append_assoc, List.append_assoc] at hl
        obtain ⟨rfl, hrest⟩ := jsonEscape_append_inj hl
        obtain ⟨rfl, hend⟩ := ih l' hrest
        exact ⟨rfl, hend⟩
  unfold jsonString at h
  simp only [String.toList_append, String.toList_ofList, List.append_assoc] at h
  obtain ⟨hs, hrest⟩ := hscan s.toList s'.toList (List.append_cancel_left h)
  exact ⟨String.toList_inj.mp hs, hrest⟩

/-! ## Values -/

/-- A number, as `serde_json` keeps it: a `u64`, a negative `i64` given by its
distance from -1, or the bits of a double. -/
inductive JsonNumber
  | posInt (n : ℕ)
  | negInt (n : ℕ)
  | float (bits : BitVec 64)
  deriving DecidableEq

/-- **`serde_json::Value`**, the fields of an object in the order of the map. -/
inductive JsonValue
  | null
  | bool (b : Bool)
  | number (n : JsonNumber)
  | string (s : String)
  | array (values : List JsonValue)
  | object (fields : List (String × JsonValue))

/-! ### Reading a value -/

namespace JsonValue

/-- `get`: the field of an object. -/
def get (key : String) : JsonValue → Option JsonValue
  | .object fields => (fields.find? (fun f => decide (f.1 = key))).map Prod.snd
  | _ => none

/-- `as_array`. -/
def asArray : JsonValue → Option (List JsonValue)
  | .array elements => some elements
  | _ => none

theorem asArray_eq_some {value : JsonValue} {elements : List JsonValue} :
    value.asArray = some elements ↔ value = .array elements := by
  cases value <;> simp [asArray]

/-- A `String`. -/
def asString : JsonValue → Option String
  | .string value => some value
  | _ => none

/-- An `Option<String>`. -/
def asOptionString : JsonValue → Option (Option String)
  | .null => some none
  | .string value => some (some value)
  | _ => none

/-- A `Vec<String>`. -/
def asStrings : JsonValue → Option (List String)
  | .array elements => elements.mapM asString
  | _ => none

/-- **The fields of a structure**, as a derived `Deserialize` takes them: by name
from an object, where one that is missing is read as `null`, or in order from
an array of exactly as many elements. -/
def structFields (names : List String) : JsonValue → Option (List JsonValue)
  | .object fields => some (names.map (fun name => ((object fields).get name).getD .null))
  | .array elements => if elements.length = names.length then some elements else none
  | _ => none

end JsonValue

/-! ## Text -/

section Text

/- The shortest text of a double is printed by a library. -/
variable (ryu : BitVec 64 → String)

/-- A number, as it is written. -/
def JsonNumber.text : JsonNumber → String
  | .posInt n => toString n
  | .negInt n => "-" ++ toString (n + 1)
  | .float bits => ryu bits

mutual

/-- **A value, as `serde_json::to_vec` writes it.** -/
def JsonValue.text : JsonValue → String
  | .null => "null"
  | .bool b => if b then "true" else "false"
  | .number n => n.text ryu
  | .string s => jsonString s
  | .array values => "[" ++ ",".intercalate (jsonTexts values) ++ "]"
  | .object fields => "\x7b" ++ ",".intercalate (jsonFieldTexts fields) ++ "\x7d"

/-- The values of an array. -/
def jsonTexts : List JsonValue → List String
  | [] => []
  | value :: values => value.text :: jsonTexts values

/-- A field of an object. -/
def jsonFieldText : String × JsonValue → String
  | (key, value) => jsonString key ++ ":" ++ value.text

/-- The fields of an object. -/
def jsonFieldTexts : List (String × JsonValue) → List String
  | [] => []
  | field :: fields => jsonFieldText field :: jsonFieldTexts fields

end

end Text
