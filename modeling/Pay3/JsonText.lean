import Mathlib
import Pay3.Json

/-!
# The text of a JSON value determines the value

Every kind of value starts with a character of its own, a string ends at its closing
quote, a number where the characters of numbers end, and the items of an array or an
object at a comma or at the closing bracket. So a text is read back in one way only,
as long as doubles are printed as numbers that are no integers and different doubles
differently, which is what the library that prints them promises.
-/

/-- **Induction over JSON values.** -/
theorem JsonValue.induct {P : JsonValue → Prop} (null : P .null) (bool : ∀ b, P (.bool b))
    (number : ∀ n, P (.number n)) (string : ∀ s, P (.string s))
    (array : ∀ values : List JsonValue, (∀ v ∈ values, P v) → P (.array values))
    (object : ∀ fields : List (String × JsonValue), (∀ f ∈ fields, P f.2) → P (.object fields))
    (v : JsonValue) : P v :=
  @JsonValue.rec P (fun values => ∀ v ∈ values, P v) (fun fields => ∀ f ∈ fields, P f.2)
    (fun f => P f.2) null bool number string array object (fun _ h => absurd h List.not_mem_nil)
    (fun _ _ hv hvs _ h => (List.mem_cons.mp h).elim (fun heq => heq ▸ hv) (hvs _))
    (fun _ h => absurd h List.not_mem_nil)
    (fun _ _ hf hfs _ h => (List.mem_cons.mp h).elim (fun heq => heq ▸ hf) (hfs _))
    (fun _ _ h => h) v

/-! ## Values as `serde_json` holds them -/

/-- A double that is a number. -/
def isFiniteDouble (bits : BitVec 64) : Prop := bits.toNat / 2 ^ 52 % 2 ^ 11 ≠ 2047

/-- A number that is not a double, or a double that is a number. -/
def JsonNumber.IsFinite : JsonNumber → Prop
  | .float bits => isFiniteDouble bits
  | _ => True

/-- **A value that a program can hold**: the keys of a map are different, and its doubles are
numbers. -/
inductive JsonValue.WellFormed : JsonValue → Prop
  | null : WellFormed .null
  | bool (b : Bool) : WellFormed (.bool b)
  | number {n : JsonNumber} (h : n.IsFinite) : WellFormed (.number n)
  | string (s : String) : WellFormed (.string s)
  | array {values : List JsonValue} (h : ∀ v ∈ values, WellFormed v) : WellFormed (.array values)
  | object {fields : List (String × JsonValue)} (hkeys : (fields.map Prod.fst).Nodup)
      (h : ∀ f ∈ fields, WellFormed f.2) : WellFormed (.object fields)

/-- The characters of numbers. -/
def isNumberChar (c : Char) : Bool :=
  c.isDigit || c == '-' || c == '+' || c == '.' || c == 'e' || c == 'E'

/-- **What a printer of doubles promises**: different texts for different doubles, of the
characters of numbers, and none of them an integer. -/
structure PrintsDoubles (ryu : BitVec 64 → String) : Prop where
  injective : ∀ a b, isFiniteDouble a → isFiniteDouble b → ryu a = ryu b → a = b
  number : ∀ a, isFiniteDouble a → ∀ c ∈ (ryu a).toList, isNumberChar c = true
  marked : ∀ a, isFiniteDouble a → ∃ c ∈ (ryu a).toList, c = '.' ∨ c = 'e'

/-! ## Texts one after the other -/

/-- What may follow a value. -/
def JsonEnds (rest : List Char) : Prop := ∀ c ∈ rest.head?, c = ',' ∨ c = ']' ∨ c = '}'

theorem jsonEnds_comma (rest : List Char) : JsonEnds (',' :: rest) := by
  intro c hc
  exact Or.inl (Option.some.inj hc).symm

/-- A text of some characters ends where they do. -/
theorem append_inj_of_all {p : Char → Bool} {l l' rest rest' : List Char}
    (hl : ∀ c ∈ l, p c = true) (hl' : ∀ c ∈ l', p c = true)
    (hrest : ∀ c ∈ rest.head?, p c = false) (hrest' : ∀ c ∈ rest'.head?, p c = false)
    (h : l ++ rest = l' ++ rest') : l = l' ∧ rest = rest' := by
  have htake : ∀ {l rest : List Char}, (∀ c ∈ l, p c = true) → (∀ c ∈ rest.head?, p c = false) →
      (l ++ rest).takeWhile p = l := by
    intro l rest hl hrest
    rw [List.takeWhile_append_of_pos hl]
    cases rest with
    | nil => simp
    | cons c rest => simp [hrest c rfl]
  have heq : l = l' := by
    rw [← htake hl hrest, h, htake hl' hrest']
  subst heq
  exact ⟨rfl, List.append_cancel_left h⟩

section Items

variable {α : Type} {write : α → List Char} {close : Char}

/-- The items after the first have a comma before them. -/
theorem intercalate_map_cons (a : α) (items : List α) :
    [','].intercalate ((a :: items).map write)
      = write a ++ items.flatMap (fun b => ',' :: write b) := by
  induction items generalizing a with
  | nil => rw [List.map_singleton, List.intercalate_singleton, List.flatMap_nil, List.append_nil]
  | cons b items ih =>
    rw [List.map_cons, List.map_cons, List.intercalate_cons_cons, ← List.map_cons, ih,
      List.flatMap_cons, List.append_assoc]
    rfl

/-- What follows an item is a comma or the closing bracket. -/
theorem jsonEnds_items (hclose : close = ']' ∨ close = '}') (items : List α) (rest : List Char) :
    JsonEnds (items.flatMap (fun b => ',' :: write b) ++ close :: rest) := by
  cases items with
  | nil =>
    intro c hc
    rw [← Option.some.inj hc]
    exact Or.inr hclose
  | cons b items => exact jsonEnds_comma _

/-- Items with a comma before each are read back one by one. -/
theorem flatMap_comma_append_inj (hclose : close = ']' ∨ close = '}') {items items' : List α}
    {rest rest' : List Char}
    (hread : ∀ a ∈ items, ∀ b ∈ items', ∀ r r', JsonEnds r → JsonEnds r' →
      write a ++ r = write b ++ r' → a = b ∧ r = r')
    (h : items.flatMap (fun b => ',' :: write b) ++ close :: rest
      = items'.flatMap (fun b => ',' :: write b) ++ close :: rest') :
    items = items' ∧ rest = rest' := by
  have hne : close ≠ ',' := by
    rcases hclose with rfl | rfl <;> decide
  induction items generalizing items' with
  | nil =>
    cases items' with
    | nil => exact ⟨rfl, (List.cons.inj h).2⟩
    | cons b items' => exact absurd (List.cons.inj h).1 hne
  | cons a items ih =>
    cases items' with
    | nil => exact absurd (List.cons.inj h).1.symm hne
    | cons b items' =>
      rw [List.flatMap_cons, List.flatMap_cons, List.append_assoc, List.append_assoc] at h
      obtain ⟨rfl, hrest⟩ := hread a List.mem_cons_self b List.mem_cons_self _ _
        (jsonEnds_items hclose items rest) (jsonEnds_items hclose items' rest')
        (List.cons.inj h).2
      obtain ⟨rfl, hend⟩ := ih (fun a ha b hb => hread a (List.mem_cons_of_mem _ ha) b
        (List.mem_cons_of_mem _ hb)) hrest
      exact ⟨rfl, hend⟩

/-- **Items between commas** up to a closing bracket are read back one by one. -/
theorem intercalate_append_inj (hclose : close = ']' ∨ close = '}') {items items' : List α}
    {rest rest' : List Char}
    (hopen : ∀ a, a ∈ items ∨ a ∈ items' → ∀ r r', write a ++ r ≠ close :: r')
    (hread : ∀ a ∈ items, ∀ b ∈ items', ∀ r r', JsonEnds r → JsonEnds r' →
      write a ++ r = write b ++ r' → a = b ∧ r = r')
    (h : [','].intercalate (items.map write) ++ close :: rest
      = [','].intercalate (items'.map write) ++ close :: rest') :
    items = items' ∧ rest = rest' := by
  cases items with
  | nil =>
    cases items' with
    | nil => exact ⟨rfl, (List.cons.inj h).2⟩
    | cons b items' =>
      rw [intercalate_map_cons, List.append_assoc] at h
      exact absurd h.symm (hopen b (Or.inr List.mem_cons_self) _ _)
  | cons a items =>
    cases items' with
    | nil =>
      rw [intercalate_map_cons, List.append_assoc] at h
      exact absurd h (hopen a (Or.inl List.mem_cons_self) _ _)
    | cons b items' =>
      rw [intercalate_map_cons, intercalate_map_cons, List.append_assoc, List.append_assoc] at h
      obtain ⟨rfl, hrest⟩ := hread a List.mem_cons_self b List.mem_cons_self _ _
        (jsonEnds_items hclose items rest) (jsonEnds_items hclose items' rest') h
      obtain ⟨rfl, hend⟩ := flatMap_comma_append_inj hclose (fun a ha b hb =>
        hread a (List.mem_cons_of_mem _ ha) b (List.mem_cons_of_mem _ hb)) hrest
      exact ⟨rfl, hend⟩

end Items

/-! ## Numbers -/

section Numbers

variable {ryu : BitVec 64 → String} {n n' : JsonNumber}

theorem isDigit_of_mem_repr {m : ℕ} {c : Char} (hc : c ∈ m.repr.toList) : c.isDigit = true := by
  rw [Nat.toList_repr] at hc
  exact Nat.isDigit_of_mem_toDigits (by decide) (by decide) hc

theorem isNumberChar_of_isDigit {c : Char} (hc : c.isDigit = true) : isNumberChar c = true := by
  simp [isNumberChar, hc]

/-- A number is written with the characters of numbers. -/
theorem JsonNumber.isNumberChar_of_mem_text (hryu : PrintsDoubles ryu) (hn : n.IsFinite) {c : Char}
    (hc : c ∈ (n.text ryu).toList) : isNumberChar c = true := by
  cases n with
  | posInt m => exact isNumberChar_of_isDigit (isDigit_of_mem_repr hc)
  | negInt m =>
    have hc' : c ∈ ("-" ++ (m + 1).repr).toList := hc
    rw [String.toList_append, List.mem_append] at hc'
    rcases hc' with hminus | hdigit
    · rw [List.mem_singleton.mp hminus]
      rfl
    · exact isNumberChar_of_isDigit (isDigit_of_mem_repr hdigit)
  | float bits => exact hryu.number bits hn c hc

theorem JsonNumber.text_ne_nil (hryu : PrintsDoubles ryu) (hn : n.IsFinite) :
    (n.text ryu).toList ≠ [] := by
  cases n with
  | posInt m =>
    show m.repr.toList ≠ []
    rw [Nat.toList_repr]
    exact Nat.toDigits_ne_nil
  | negInt m =>
    show ("-" ++ (m + 1).repr).toList ≠ []
    rw [String.toList_append]
    simp
  | float bits =>
    obtain ⟨c, hc, -⟩ := hryu.marked bits hn
    exact List.ne_nil_of_mem hc

/-- A double is not written as an integer. -/
theorem float_text_ne {bits : BitVec 64} (hryu : PrintsDoubles ryu) (hbits : isFiniteDouble bits)
    {l : List Char} (hl : ∀ c ∈ l, c = '-' ∨ c.isDigit = true) : (ryu bits).toList ≠ l := by
  rintro rfl
  obtain ⟨c, hc, hmark⟩ := hryu.marked bits hbits
  rcases hl c hc with hminus | hdigit
  · rcases hmark with rfl | rfl <;> cases hminus
  · rcases hmark with rfl | rfl <;> exact absurd hdigit (by decide)

theorem posInt_ne_negInt (m k : ℕ) : m.repr ≠ "-" ++ (k + 1).repr := by
  intro h
  have hc : '-' ∈ m.repr.toList := by
    rw [h, String.toList_append]
    exact List.mem_append_left _ (List.mem_singleton_self _)
  exact absurd (isDigit_of_mem_repr hc) (by decide)

theorem intText_chars : ∀ m k : ℕ, (∀ c ∈ m.repr.toList, c = '-' ∨ c.isDigit = true)
    ∧ ∀ c ∈ ("-" ++ k.repr).toList, c = '-' ∨ c.isDigit = true := by
  intro m k
  refine ⟨fun c hc => Or.inr (isDigit_of_mem_repr hc), fun c hc => ?_⟩
  rw [String.toList_append, List.mem_append] at hc
  rcases hc with hminus | hdigit
  · exact Or.inl (List.mem_singleton.mp hminus)
  · exact Or.inr (isDigit_of_mem_repr hdigit)

/-- **Different numbers are written differently.** -/
theorem JsonNumber.text_inj (hryu : PrintsDoubles ryu) (hn : n.IsFinite) (hn' : n'.IsFinite)
    (h : n.text ryu = n'.text ryu) : n = n' := by
  cases n with
  | posInt m =>
    cases n' with
    | posInt k => exact congrArg JsonNumber.posInt (Nat.repr_inj.mp h)
    | negInt k => exact absurd h (posInt_ne_negInt m k)
    | float bits =>
      exact absurd (congrArg String.toList h).symm (float_text_ne hryu hn' (intText_chars m 0).1)
  | negInt m =>
    cases n' with
    | posInt k => exact absurd h.symm (posInt_ne_negInt k m)
    | negInt k =>
      have hlist := congrArg String.toList h
      have hrepr : (m + 1).repr.toList = (k + 1).repr.toList := by
        have hlist' : ("-" ++ (m + 1).repr).toList = ("-" ++ (k + 1).repr).toList := hlist
        rw [String.toList_append, String.toList_append] at hlist'
        exact List.append_cancel_left hlist'
      have hmk := Nat.repr_inj.mp (String.toList_inj.mp hrepr)
      exact congrArg JsonNumber.negInt (Nat.succ.inj hmk)
    | float bits =>
      exact absurd (congrArg String.toList h).symm
        (float_text_ne hryu hn' (intText_chars 0 (m + 1)).2)
  | float bits =>
    cases n' with
    | posInt k => exact absurd (congrArg String.toList h) (float_text_ne hryu hn (intText_chars k 0).1)
    | negInt k =>
      exact absurd (congrArg String.toList h) (float_text_ne hryu hn (intText_chars 0 (k + 1)).2)
    | float bits' => exact congrArg JsonNumber.float (hryu.injective bits bits' hn hn' h)

/-- A number ends where the characters of numbers end. -/
theorem JsonNumber.text_append_inj (hryu : PrintsDoubles ryu) (hn : n.IsFinite) (hn' : n'.IsFinite)
    {rest rest' : List Char} (hends : JsonEnds rest) (hends' : JsonEnds rest')
    (h : (n.text ryu).toList ++ rest = (n'.text ryu).toList ++ rest') : n = n' ∧ rest = rest' := by
  have hnone : ∀ {r : List Char}, JsonEnds r → ∀ c ∈ r.head?, isNumberChar c = false := by
    intro r hr c hc
    rcases hr c hc with rfl | rfl | rfl <;> decide
  obtain ⟨htext, hrest⟩ := append_inj_of_all
    (fun c hc => JsonNumber.isNumberChar_of_mem_text hryu hn hc)
    (fun c hc => JsonNumber.isNumberChar_of_mem_text hryu hn' hc) (hnone hends) (hnone hends') h
  exact ⟨JsonNumber.text_inj hryu hn hn' (String.toList_inj.mp htext), hrest⟩

end Numbers

/-! ## Values -/

section Values

variable (ryu : BitVec 64 → String)

theorem jsonTexts_eq_map (values : List JsonValue) :
    jsonTexts ryu values = values.map (JsonValue.text ryu) := by
  induction values with
  | nil => rfl
  | cons v values ih =>
    rw [jsonTexts, ih, List.map_cons]

theorem jsonFieldTexts_eq_map (fields : List (String × JsonValue)) :
    jsonFieldTexts ryu fields = fields.map (jsonFieldText ryu) := by
  induction fields with
  | nil => rfl
  | cons f fields ih =>
    rw [jsonFieldTexts, ih, List.map_cons]

theorem toList_text_array (values : List JsonValue) :
    (JsonValue.text ryu (.array values)).toList
      = '[' :: ([','].intercalate (values.map (fun v => (v.text ryu).toList)) ++ [']']) := by
  rw [JsonValue.text, String.toList_append, String.toList_append, String.toList_intercalate, jsonTexts_eq_map,
    List.map_map]
  rfl

theorem toList_text_object (fields : List (String × JsonValue)) :
    (JsonValue.text ryu (.object fields)).toList
      = '{' :: ([','].intercalate (fields.map (fun f => (jsonFieldText ryu f).toList))
        ++ ['}']) := by
  rw [JsonValue.text, String.toList_append, String.toList_append, String.toList_intercalate, jsonFieldTexts_eq_map,
    List.map_map]
  rfl

theorem toList_jsonFieldText (f : String × JsonValue) :
    (jsonFieldText ryu f).toList = (jsonString f.1).toList ++ ':' :: (f.2.text ryu).toList := by
  obtain ⟨key, value⟩ := f
  simp [jsonFieldText]

/-- The kind of a value. -/
def JsonValue.kind : JsonValue → ℕ
  | .null => 0
  | .bool true => 1
  | .bool false => 2
  | .number _ => 3
  | .string _ => 4
  | .array _ => 5
  | .object _ => 6

/-- The kind of the values that start with a character. -/
def jsonKindOf (c : Char) : ℕ :=
  if c = 'n' then 0
  else if c = 't' then 1
  else if c = 'f' then 2
  else if isNumberChar c then 3
  else if c = '"' then 4
  else if c = '[' then 5
  else if c = '{' then 6
  else 7

variable {ryu}

/-- The first character of a value shows its kind. -/
theorem JsonValue.exists_head (hryu : PrintsDoubles ryu) {v : JsonValue} (hv : v.WellFormed) :
    ∃ c tail, (v.text ryu).toList = c :: tail ∧ jsonKindOf c = v.kind := by
  cases hv with
  | null => exact ⟨'n', ['u', 'l', 'l'], by simp [JsonValue.text], by decide⟩
  | bool b =>
    cases b with
    | true => exact ⟨'t', ['r', 'u', 'e'], by simp [JsonValue.text], by decide⟩
    | false => exact ⟨'f', ['a', 'l', 's', 'e'], by simp [JsonValue.text], by decide⟩
  | @number n hn =>
    obtain ⟨c, tail, htext⟩ := List.exists_cons_of_ne_nil (JsonNumber.text_ne_nil hryu hn)
    have hc : isNumberChar c = true :=
      JsonNumber.isNumberChar_of_mem_text hryu hn (htext ▸ List.mem_cons_self)
    refine ⟨c, tail, htext, ?_⟩
    have hne : ∀ d, isNumberChar d = false → c ≠ d := by
      rintro d hd rfl
      rw [hc] at hd
      cases hd
    unfold jsonKindOf JsonValue.kind
    rw [if_neg (hne 'n' (by decide)), if_neg (hne 't' (by decide)), if_neg (hne 'f' (by decide)),
      if_pos hc]
  | string s =>
    refine ⟨'"', s.toList.flatMap jsonEscape ++ ['"'], ?_, show jsonKindOf '"' = 4 by decide⟩
    simp [JsonValue.text, jsonString]
  | array _ => exact ⟨'[', _, toList_text_array ryu _, show jsonKindOf '[' = 5 by decide⟩
  | object _ _ => exact ⟨'{', _, toList_text_object ryu _, show jsonKindOf '{' = 6 by decide⟩

/-- No value starts with a closing bracket. -/
theorem JsonValue.text_append_ne (hryu : PrintsDoubles ryu) {v : JsonValue} (hv : v.WellFormed)
    (r r' : List Char) : (v.text ryu).toList ++ r ≠ ']' :: r' := by
  obtain ⟨c, tail, htext, hkind⟩ := v.exists_head hryu hv
  have hclose : jsonKindOf ']' = 7 := by decide
  rw [htext]
  intro h
  rw [(List.cons.inj h).1, hclose] at hkind
  cases v with
  | bool b => cases b <;> cases hkind
  | _ => cases hkind

theorem jsonString_ne (s : String) (r r' : List Char) :
    (jsonString s).toList ++ r ≠ '}' :: r' := by
  unfold jsonString
  rw [String.toList_append, String.toList_append]
  intro h
  exact absurd (List.cons.inj h).1 (by decide)

/-- **A value is read back** up to the comma or bracket after it. -/
theorem JsonValue.text_append_inj (hryu : PrintsDoubles ryu) {v : JsonValue} :
    v.WellFormed → ∀ w : JsonValue, w.WellFormed → ∀ rest rest', JsonEnds rest → JsonEnds rest' →
      (v.text ryu).toList ++ rest = (w.text ryu).toList ++ rest' → v = w ∧ rest = rest' := by
  have hkinds : ∀ {v w : JsonValue} {rest rest' : List Char}, v.WellFormed → w.WellFormed →
      (v.text ryu).toList ++ rest = (w.text ryu).toList ++ rest' → v.kind = w.kind := by
    intro v w rest rest' hv hw h
    obtain ⟨c, tail, hc, hvkind⟩ := v.exists_head hryu hv
    obtain ⟨c', tail', hc', hwkind⟩ := w.exists_head hryu hw
    rw [hc, hc'] at h
    rw [← hvkind, ← hwkind, (List.cons.inj h).1]
  induction v using JsonValue.induct with
  | null =>
    intro hv w hw rest rest' _ _ h
    have hkind := hkinds hv hw h
    cases w with
    | null => exact ⟨rfl, List.append_cancel_left h⟩
    | bool b => cases b <;> cases hkind
    | _ => cases hkind
  | bool b =>
    intro hv w hw rest rest' _ _ h
    have hkind := hkinds hv hw h
    cases w with
    | bool b' =>
      have hb : b = b' := by
        cases b <;> cases b' <;> first | rfl | cases hkind
      subst hb
      exact ⟨rfl, List.append_cancel_left h⟩
    | _ => cases b <;> cases hkind
  | number n =>
    intro hv w hw rest rest' hends hends' h
    have hkind := hkinds hv hw h
    cases w with
    | number n' =>
      cases hv with
      | number hn =>
        cases hw with
        | number hn' =>
          obtain ⟨rfl, hrest⟩ := JsonNumber.text_append_inj hryu hn hn' hends hends' h
          exact ⟨rfl, hrest⟩
    | bool b => cases b <;> cases hkind
    | _ => cases hkind
  | string s =>
    intro hv w hw rest rest' _ _ h
    have hkind := hkinds hv hw h
    cases w with
    | string s' =>
      obtain ⟨rfl, hrest⟩ := jsonString_append_inj h
      exact ⟨rfl, hrest⟩
    | bool b => cases b <;> cases hkind
    | _ => cases hkind
  | array values ih =>
    intro hv w hw rest rest' _ _ h
    have hkind := hkinds hv hw h
    cases w with
    | array values' =>
      cases hv with
      | array hvalues =>
        cases hw with
        | array hvalues' =>
          rw [toList_text_array, toList_text_array, List.cons_append, List.cons_append,
            List.append_assoc, List.append_assoc] at h
          obtain ⟨rfl, hrest⟩ := intercalate_append_inj (Or.inl rfl)
            (fun v hmem r r' => JsonValue.text_append_ne hryu
              (hmem.elim (hvalues v) (hvalues' v)) r r')
            (fun v hv w hw r r' hr hr' => ih v hv (hvalues v hv) w (hvalues' w hw) r r' hr hr')
            (List.cons.inj h).2
          exact ⟨rfl, hrest⟩
    | bool b => cases b <;> cases hkind
    | _ => cases hkind
  | object fields ih =>
    intro hv w hw rest rest' _ _ h
    have hkind := hkinds hv hw h
    cases w with
    | object fields' =>
      cases hv with
      | object _ hfields =>
        cases hw with
        | object _ hfields' =>
          rw [toList_text_object, toList_text_object, List.cons_append, List.cons_append,
            List.append_assoc, List.append_assoc] at h
          obtain ⟨rfl, hrest⟩ := intercalate_append_inj (Or.inr rfl)
            (fun f _ r r' => by
              rw [toList_jsonFieldText, List.append_assoc]
              exact jsonString_ne f.1 _ _)
            (fun f hf g hg r r' hr hr' hread => by
              rw [toList_jsonFieldText, toList_jsonFieldText, List.append_assoc,
                List.append_assoc] at hread
              obtain ⟨hkey, hvalue⟩ := jsonString_append_inj hread
              obtain ⟨hvalue, hrest⟩ := ih f hf (hfields f hf) g.2 (hfields' g hg) r r' hr hr'
                (List.cons.inj hvalue).2
              exact ⟨Prod.ext hkey hvalue, hrest⟩)
            (List.cons.inj h).2
          exact ⟨rfl, hrest⟩
    | bool b => cases b <;> cases hkind
    | _ => cases hkind

end Values
