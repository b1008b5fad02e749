import Pay3.JsonText
import Pay3.OrderRequests

/-!
# When two requests for an order are the same

A request is hashed in its canonical form, with the keys of its metadata in order at
every depth. Two requests that only differ in the order of keys are then one request,
and two that differ in anything else are two.

Sorting forgets exactly the order of keys: sorted fields have the keys and values there
were, and a sorted list with given keys and values is unique. And the canonical text
determines what it was made from.
-/

/-! ## Values up to the order of keys -/

/-- **The same JSON value up to the order of keys**, at every depth. -/
inductive JsonValue.SameUpToKeyOrder : JsonValue → JsonValue → Prop
  | null : SameUpToKeyOrder .null .null
  | bool (b : Bool) : SameUpToKeyOrder (.bool b) (.bool b)
  | number (n : JsonNumber) : SameUpToKeyOrder (.number n) (.number n)
  | string (s : String) : SameUpToKeyOrder (.string s) (.string s)
  /-- Arrays have the same values one by one. -/
  | array {values values' : List JsonValue} (hlength : values.length = values'.length)
      (h : ∀ p ∈ values.zip values', SameUpToKeyOrder p.1 p.2) :
      SameUpToKeyOrder (.array values) (.array values')
  /-- Objects have the same keys, and the same values under them. -/
  | object {fields fields' : List (String × JsonValue)}
      (hkeys : ∀ key, key ∈ fields.map Prod.fst ↔ key ∈ fields'.map Prod.fst)
      (h : ∀ f ∈ fields, ∀ g ∈ fields', f.1 = g.1 → SameUpToKeyOrder f.2 g.2) :
      SameUpToKeyOrder (.object fields) (.object fields')

/-- Metadata, where nothing counts as the empty object. -/
def JsonValue.orEmptyObject : JsonValue → JsonValue
  | .null => .object []
  | value => value

/-! ## Sorting -/

/-- Fields with their keys in order, each once. -/
def KeysSorted (fields : List (String × JsonValue)) : Prop :=
  fields.Pairwise (fun f g => f.1 < g.1)

section Insert

variable {field x : String × JsonValue} {fields : List (String × JsonValue)}

theorem mem_insertKey_self (field : String × JsonValue) (fields : List (String × JsonValue)) :
    field ∈ insertKey field fields := by
  induction fields with
  | nil => exact List.mem_singleton_self _
  | cons f fields ih =>
    unfold insertKey
    split_ifs
    · exact List.mem_cons_self
    · exact List.mem_cons_self
    · exact List.mem_cons_of_mem f ih

theorem mem_of_mem_insertKey (h : x ∈ insertKey field fields) : x = field ∨ x ∈ fields := by
  induction fields with
  | nil => exact Or.inl (List.mem_singleton.mp h)
  | cons f fields ih =>
    unfold insertKey at h
    split_ifs at h with hlt heq
    · rcases List.mem_cons.mp h with rfl | h
      · exact Or.inl rfl
      · exact Or.inr h
    · rcases List.mem_cons.mp h with rfl | h
      · exact Or.inl rfl
      · exact Or.inr (List.mem_cons_of_mem f h)
    · rcases List.mem_cons.mp h with rfl | h
      · exact Or.inr List.mem_cons_self
      · rcases ih h with rfl | h
        · exact Or.inl rfl
        · exact Or.inr (List.mem_cons_of_mem f h)

/-- A field under another key stays. -/
theorem mem_insertKey_of_ne (hx : x ∈ fields) (hne : x.1 ≠ field.1) :
    x ∈ insertKey field fields := by
  induction fields with
  | nil => exact absurd hx List.not_mem_nil
  | cons f fields ih =>
    unfold insertKey
    split_ifs with hlt heq
    · exact List.mem_cons_of_mem field hx
    · rcases List.mem_cons.mp hx with rfl | hx
      · exact absurd heq hne
      · exact List.mem_cons_of_mem field hx
    · rcases List.mem_cons.mp hx with rfl | hx
      · exact List.mem_cons_self
      · exact List.mem_cons_of_mem f (ih hx)

theorem KeysSorted.insert (h : KeysSorted fields) (field : String × JsonValue) :
    KeysSorted (insertKey field fields) := by
  induction fields with
  | nil => exact List.pairwise_singleton _ _
  | cons f fields ih =>
    obtain ⟨hf, hfields⟩ := List.pairwise_cons.mp h
    unfold insertKey
    split_ifs with hlt heq
    · refine List.pairwise_cons.mpr ⟨fun g hg => ?_, h⟩
      rcases List.mem_cons.mp hg with rfl | hg
      · exact hlt
      · exact hlt.trans (hf g hg)
    · exact List.pairwise_cons.mpr ⟨fun g hg => heq ▸ hf g hg, hfields⟩
    · refine List.pairwise_cons.mpr ⟨fun g hg => ?_, ih hfields⟩
      rcases mem_of_mem_insertKey hg with rfl | hg
      · exact lt_of_le_of_ne (not_lt.mp hlt) heq
      · exact hf g hg

/-- A field after all the others comes last. -/
theorem insertKey_eq_append (h : ∀ f ∈ fields, f.1 < field.1) :
    insertKey field fields = fields ++ [field] := by
  induction fields with
  | nil => rfl
  | cons f fields ih =>
    have hf := h f List.mem_cons_self
    unfold insertKey
    rw [if_neg (not_lt.mpr hf.le), if_neg hf.ne, ih (fun g hg => h g (List.mem_cons_of_mem f hg)),
      List.cons_append]

end Insert

section Sorting

variable {fields sorted : List (String × JsonValue)} {x : String × JsonValue}

theorem sortJsonField_fst (f : String × JsonValue) : (sortJsonField f).1 = f.1 := by
  rw [sortJsonField]

theorem sortJsonField_snd (f : String × JsonValue) :
    (sortJsonField f).2 = sortJsonValue f.2 := by
  rw [sortJsonField]

/-- Sorting keeps the keys. -/
theorem mem_keys_iff_sorted {fields : List (String × JsonValue)} {key : String} :
    key ∈ fields.map Prod.fst ↔ ∃ x, (∃ f ∈ fields, sortJsonField f = x) ∧ x.1 = key := by
  rw [List.mem_map]
  constructor
  · rintro ⟨f, hf, rfl⟩
    exact ⟨sortJsonField f, ⟨f, hf, rfl⟩, sortJsonField_fst f⟩
  · rintro ⟨-, ⟨f, hf, rfl⟩, rfl⟩
    exact ⟨f, hf, (sortJsonField_fst f).symm⟩

theorem KeysSorted.sortJsonFields (h : KeysSorted sorted) (fields : List (String × JsonValue)) :
    KeysSorted (sortJsonFields fields sorted) := by
  induction fields generalizing sorted with
  | nil =>
    rw [sortJsonFields]
    exact h
  | cons f fields ih =>
    rw [sortJsonFields]
    exact ih (h.insert _)

theorem mem_of_mem_sortJsonFields (h : x ∈ sortJsonFields fields sorted) :
    x ∈ sorted ∨ ∃ f ∈ fields, sortJsonField f = x := by
  induction fields generalizing sorted with
  | nil =>
    rw [sortJsonFields] at h
    exact Or.inl h
  | cons f fields ih =>
    rw [sortJsonFields] at h
    rcases ih h with h | ⟨g, hg, rfl⟩
    · rcases mem_of_mem_insertKey h with rfl | h
      · exact Or.inr ⟨f, List.mem_cons_self, rfl⟩
      · exact Or.inl h
    · exact Or.inr ⟨g, List.mem_cons_of_mem f hg, rfl⟩

/-- Under keys of their own, all fields are collected. -/
theorem mem_sortJsonFields_of (hkeys : (fields.map Prod.fst).Nodup)
    (h : (x ∈ sorted ∧ x.1 ∉ fields.map Prod.fst) ∨ ∃ f ∈ fields, sortJsonField f = x) :
    x ∈ sortJsonFields fields sorted := by
  induction fields generalizing sorted with
  | nil =>
    rw [sortJsonFields]
    rcases h with ⟨h, -⟩ | ⟨f, hf, -⟩
    · exact h
    · exact absurd hf List.not_mem_nil
  | cons f fields ih =>
    rw [List.map_cons, List.nodup_cons] at hkeys
    have hkey := sortJsonField_fst f
    rw [sortJsonFields]
    refine ih hkeys.2 ?_
    rcases h with ⟨hx, hnot⟩ | ⟨g, hg, rfl⟩
    · rw [List.map_cons, List.mem_cons, not_or] at hnot
      exact Or.inl ⟨mem_insertKey_of_ne hx (hkey ▸ hnot.1), hnot.2⟩
    · rcases List.mem_cons.mp hg with rfl | hg
      · exact Or.inl ⟨mem_insertKey_self _ _, hkey ▸ hkeys.1⟩
      · exact Or.inr ⟨g, hg, rfl⟩

theorem mem_sortJsonFields (hkeys : (fields.map Prod.fst).Nodup) :
    x ∈ sortJsonFields fields [] ↔ ∃ f ∈ fields, sortJsonField f = x := by
  constructor
  · intro h
    rcases mem_of_mem_sortJsonFields h with h | h
    · exact absurd h List.not_mem_nil
    · exact h
  · intro h
    exact mem_sortJsonFields_of hkeys (Or.inr h)

theorem keysSorted_sortJsonFields (fields : List (String × JsonValue)) :
    KeysSorted (sortJsonFields fields []) :=
  KeysSorted.sortJsonFields List.Pairwise.nil fields

/-- Sorted fields with the same elements are the same fields. -/
theorem KeysSorted.eq_of_mem_iff {fields' : List (String × JsonValue)} (h : KeysSorted fields)
    (h' : KeysSorted fields') (hmem : ∀ x, x ∈ fields ↔ x ∈ fields') : fields = fields' := by
  have hnodup : ∀ {l : List (String × JsonValue)}, KeysSorted l → l.Nodup := by
    intro l hl
    refine hl.imp (fun {f g} hlt hfg => ?_)
    rw [hfg] at hlt
    exact lt_irrefl g.1 hlt
  have hperm : fields.Perm fields' :=
    (List.perm_ext_iff_of_nodup (hnodup h) (hnodup h')).mpr hmem
  refine hperm.eq_of_pairwise (fun f g _ _ hlt hgt => ?_) h h'
  exact absurd hlt (lt_asymm hgt)

/-- A sorted list has one field under a key. -/
theorem KeysSorted.eq_of_key (h : KeysSorted fields) {f g : String × JsonValue} (hf : f ∈ fields)
    (hg : g ∈ fields) (hkey : f.1 = g.1) : f = g := by
  have hnodup : (fields.map Prod.fst).Nodup :=
    List.pairwise_map.mpr (h.imp (fun hlt => hlt.ne))
  exact List.inj_on_of_nodup_map hnodup hf hg hkey

theorem sortJsonValues_eq_map (values : List JsonValue) :
    sortJsonValues values = values.map sortJsonValue := by
  induction values with
  | nil =>
    rw [sortJsonValues]
    rfl
  | cons v values ih => rw [sortJsonValues, ih, List.map_cons]

/-- Sorted fields with sorted values are collected as they are. -/
theorem sortJsonFields_eq_append (h : KeysSorted (sorted ++ fields))
    (hvalues : ∀ f ∈ fields, sortJsonValue f.2 = f.2) :
    sortJsonFields fields sorted = sorted ++ fields := by
  induction fields generalizing sorted with
  | nil => rw [sortJsonFields, List.append_nil]
  | cons f fields ih =>
    have hf : sortJsonField f = f := by
      obtain ⟨key, value⟩ := f
      rw [sortJsonField, hvalues (key, value) List.mem_cons_self]
    have hlast : ∀ g ∈ sorted, g.1 < f.1 := by
      intro g hg
      exact (List.pairwise_append.mp h).2.2 g hg f List.mem_cons_self
    rw [sortJsonFields, hf, insertKey_eq_append hlast, ih (by rwa [List.append_assoc])
      (fun g hg => hvalues g (List.mem_cons_of_mem f hg)), List.append_assoc]
    rfl

end Sorting

/-- **`sort_json_value` is idempotent.** -/
theorem sortJsonValue_idem (v : JsonValue) : sortJsonValue (sortJsonValue v) = sortJsonValue v := by
  induction v using JsonValue.induct with
  | array values ih =>
    rw [sortJsonValue, sortJsonValue, sortJsonValues_eq_map, sortJsonValues_eq_map, List.map_map]
    exact congrArg JsonValue.array (List.map_congr_left ih)
  | object fields ih =>
    rw [sortJsonValue, sortJsonValue]
    refine congrArg JsonValue.object ?_
    refine sortJsonFields_eq_append (keysSorted_sortJsonFields fields) (fun x hx => ?_)
    rcases mem_of_mem_sortJsonFields hx with hx | ⟨f, hf, rfl⟩
    · exact absurd hx List.not_mem_nil
    · obtain ⟨key, value⟩ := f
      rw [sortJsonField]
      exact ih (key, value) hf
  | null => simp [sortJsonValue]
  | bool b => simp [sortJsonValue]
  | number n => simp [sortJsonValue]
  | string s => simp [sortJsonValue]

/-- Sorting keeps a value a value. -/
theorem JsonValue.WellFormed.sort {v : JsonValue} (hv : v.WellFormed) :
    (sortJsonValue v).WellFormed := by
  induction hv with
  | null =>
    rw [sortJsonValue]
    · exact .null
    all_goals simp
  | bool b =>
    rw [sortJsonValue]
    · exact .bool b
    all_goals simp
  | number h =>
    rw [sortJsonValue]
    · exact .number h
    all_goals simp
  | string s =>
    rw [sortJsonValue]
    · exact .string s
    all_goals simp
  | array _ ih =>
    rw [sortJsonValue, sortJsonValues_eq_map]
    refine .array (fun w hw => ?_)
    obtain ⟨v, hv, rfl⟩ := List.mem_map.mp hw
    exact ih v hv
  | object hkeys _ ih =>
    rw [sortJsonValue]
    refine .object (List.pairwise_map.mpr
      ((keysSorted_sortJsonFields _).imp (fun hlt => hlt.ne))) (fun x hx => ?_)
    obtain ⟨⟨key, value⟩, hf, rfl⟩ := (mem_sortJsonFields hkeys).mp hx
    rw [sortJsonField]
    exact ih (key, value) hf

/-! ## What sorting forgets -/

/-- Values that are the same up to the order of keys are sorted to one value. -/
theorem JsonValue.SameUpToKeyOrder.sort_eq {v w : JsonValue} (h : v.SameUpToKeyOrder w) :
    v.WellFormed → w.WellFormed → sortJsonValue v = sortJsonValue w := by
  induction h with
  | null | bool | number | string =>
    intro _ _
    rfl
  | @array values values' hlength _ ih =>
    intro hv hw
    cases hv with
    | array hvalues =>
      cases hw with
      | array hvalues' =>
        rw [sortJsonValue, sortJsonValue, sortJsonValues_eq_map, sortJsonValues_eq_map]
        refine congrArg JsonValue.array (List.ext_getElem (by simp [hlength]) (fun i hi hi' => ?_))
        rw [List.getElem_map, List.getElem_map]
        rw [List.length_map] at hi hi'
        have hp : (values[i], values'[i]) ∈ values.zip values' := by
          rw [← List.getElem_zip (h := by simpa using ⟨hi, hi'⟩)]
          exact List.getElem_mem _
        exact ih _ hp (hvalues _ (List.getElem_mem hi)) (hvalues' _ (List.getElem_mem hi'))
  | @object fields fields' hkeys _ ih =>
    intro hv hw
    cases hv with
    | object hnodup hfields =>
      cases hw with
      | object hnodup' hfields' =>
        rw [sortJsonValue, sortJsonValue]
        refine congrArg JsonValue.object (KeysSorted.eq_of_mem_iff (keysSorted_sortJsonFields _)
          (keysSorted_sortJsonFields _) (fun x => ?_))
        rw [mem_sortJsonFields hnodup, mem_sortJsonFields hnodup']
        constructor
        · rintro ⟨f, hf, rfl⟩
          obtain ⟨g, hg, hkey⟩ := List.mem_map.mp ((hkeys f.1).mp (List.mem_map_of_mem hf))
          refine ⟨g, hg, ?_⟩
          obtain ⟨key, value⟩ := f
          obtain ⟨key', value'⟩ := g
          obtain rfl : key' = key := hkey
          rw [sortJsonField, sortJsonField,
            ih _ hf _ hg rfl (hfields _ hf) (hfields' _ hg)]
        · rintro ⟨g, hg, rfl⟩
          obtain ⟨f, hf, hkey⟩ := List.mem_map.mp ((hkeys g.1).mpr (List.mem_map_of_mem hg))
          refine ⟨f, hf, ?_⟩
          obtain ⟨key, value⟩ := f
          obtain ⟨key', value'⟩ := g
          obtain rfl : key = key' := hkey
          rw [sortJsonField, sortJsonField,
            ih _ hf _ hg rfl (hfields _ hf) (hfields' _ hg)]

/-- **Values that are sorted to one value are the same** up to the order of keys. -/
theorem JsonValue.SameUpToKeyOrder.of_sort_eq {v : JsonValue} (hv : v.WellFormed) :
    ∀ w : JsonValue, w.WellFormed → sortJsonValue v = sortJsonValue w → v.SameUpToKeyOrder w := by
  induction hv with
  | null =>
    intro w hw h
    cases w with
    | null => exact .null
    | _ => simp [sortJsonValue] at h
  | bool b =>
    intro w hw h
    cases w with
    | bool b' =>
      simp only [sortJsonValue, JsonValue.bool.injEq] at h
      exact h ▸ .bool b
    | _ => simp [sortJsonValue] at h
  | @number n _ =>
    intro w hw h
    cases w with
    | number n' =>
      simp only [sortJsonValue, JsonValue.number.injEq] at h
      exact h ▸ .number n
    | _ => simp [sortJsonValue] at h
  | string s =>
    intro w hw h
    cases w with
    | string s' =>
      simp only [sortJsonValue, JsonValue.string.injEq] at h
      exact h ▸ .string s
    | _ => simp [sortJsonValue] at h
  | @array values hvalues ih =>
    intro w hw h
    cases w with
    | array values' =>
      cases hw with
      | array hvalues' =>
        simp only [sortJsonValue, sortJsonValues_eq_map, JsonValue.array.injEq] at h
        have hlength : values.length = values'.length := by
          have hlen := congrArg List.length h
          rwa [List.length_map, List.length_map] at hlen
        refine .array hlength (fun p hp => ?_)
        obtain ⟨i, hi, rfl⟩ := List.mem_iff_getElem.mp hp
        rw [List.length_zip, lt_inf_iff] at hi
        rw [List.getElem_zip]
        have hsorted := congrArg (fun l : List JsonValue => l[i]?) h
        simp only [List.getElem?_map, List.getElem?_eq_getElem hi.1,
          List.getElem?_eq_getElem hi.2, Option.map_some, Option.some.injEq] at hsorted
        exact ih _ (List.getElem_mem hi.1) _ (hvalues' _ (List.getElem_mem hi.2)) hsorted
    | _ => simp [sortJsonValue] at h
  | @object fields hnodup hfields ih =>
    intro w hw h
    cases w with
    | object fields' =>
      cases hw with
      | object hnodup' hfields' =>
        simp only [sortJsonValue, JsonValue.object.injEq] at h
        have hmem : ∀ x, (∃ f ∈ fields, sortJsonField f = x)
            ↔ ∃ g ∈ fields', sortJsonField g = x := by
          intro x
          rw [← mem_sortJsonFields hnodup, ← mem_sortJsonFields hnodup', h]
        refine .object (fun key => ?_) (fun f hf g hg hkey => ?_)
        · rw [mem_keys_iff_sorted, mem_keys_iff_sorted]
          simp only [hmem]
        · -- under one key the sorted fields have one value
          have hf' : sortJsonField f ∈ sortJsonFields fields' [] :=
            (mem_sortJsonFields hnodup').mpr ((hmem _).mp ⟨f, hf, rfl⟩)
          have hg' : sortJsonField g ∈ sortJsonFields fields' [] :=
            (mem_sortJsonFields hnodup').mpr ⟨g, hg, rfl⟩
          have hsame : sortJsonField f = sortJsonField g :=
            (keysSorted_sortJsonFields fields').eq_of_key hf' hg'
              (by rw [sortJsonField_fst, sortJsonField_fst, hkey])
          refine ih f hf g.2 (hfields' g hg) ?_
          rw [← sortJsonField_snd, ← sortJsonField_snd, hsame]
    | _ => simp [sortJsonValue] at h

/-! ## The canonical text -/

section Canonical

variable {ryu : BitVec 64 → String} {input input' : NormalizedCreateOrderInput}

/-- The canonical text around what differs between requests. -/
theorem toList_canonicalOrderRequest (ryu : BitVec 64 → String)
    (input : NormalizedCreateOrderInput) :
    (canonicalOrderRequest ryu input).toList
      = ("\x7b" ++ jsonString "external_id" ++ ":").toList
        ++ ((jsonString input.externalId).toList
        ++ (("," ++ jsonString "amount_raw" ++ ":").toList
        ++ ((jsonString (toString input.expectedAmountRaw.toNat)).toList
        ++ (("," ++ jsonString "ttl_seconds" ++ ":").toList
        ++ ((toString input.ttlSeconds).toList
        ++ (',' :: ((jsonString "metadata" ++ ":").toList
        ++ ((input.metadata.text ryu).toList ++ ['}'])))))))) := by
  have hjoin : ∀ a b c d : String, ",".intercalate [a, b, c, d]
      = a ++ "," ++ b ++ "," ++ c ++ "," ++ d := fun _ _ _ _ => rfl
  unfold canonicalOrderRequest
  simp only [List.map_cons, List.map_nil]
  rw [hjoin]
  simp only [String.toList_append, List.append_assoc]
  rfl

/-- **The canonical text determines the request.** -/
theorem canonicalOrderRequest_inj (hryu : PrintsDoubles ryu) (hv : input.metadata.WellFormed)
    (hv' : input'.metadata.WellFormed)
    (h : canonicalOrderRequest ryu input = canonicalOrderRequest ryu input') :
    input.externalId = input'.externalId ∧ input.expectedAmountRaw = input'.expectedAmountRaw
      ∧ input.ttlSeconds = input'.ttlSeconds ∧ input.metadata = input'.metadata := by
  have hlist := congrArg String.toList h
  rw [toList_canonicalOrderRequest, toList_canonicalOrderRequest] at hlist
  obtain ⟨hid, hlist⟩ := jsonString_append_inj (List.append_cancel_left hlist)
  obtain ⟨hamount, hlist⟩ := jsonString_append_inj (List.append_cancel_left hlist)
  have hcomma : ∀ (r : List Char), ∀ c ∈ (',' :: r).head?, c.isDigit = false := by
    intro r c hc
    rw [← Option.some.inj hc]
    decide
  obtain ⟨httl, hlist⟩ := append_inj_of_all (fun c hc => isDigit_of_mem_repr hc)
    (fun c hc => isDigit_of_mem_repr hc) (hcomma _) (hcomma _) (List.append_cancel_left hlist)
  have hends : JsonEnds ['}'] := by
    intro c hc
    exact Or.inr (Or.inr (Option.some.inj hc).symm)
  obtain ⟨hmetadata, -⟩ := JsonValue.text_append_inj hryu hv _ hv' _ _ hends hends
    (List.append_cancel_left (List.cons.inj hlist).2)
  exact ⟨hid, BitVec.eq_of_toNat_eq (Nat.repr_inj.mp hamount),
    Nat.repr_inj.mp (String.toList_inj.mp httl), hmetadata⟩

/-- Hashes with one text are one hash. -/
theorem hashText_inj {a b : BitVec 256}
    (h : "0x" ++ String.ofList (hexDigits 64 a.toNat) = "0x" ++ String.ofList (hexDigits 64 b.toNat)) :
    a = b := by
  have hlist := congrArg String.toList h
  simp only [String.toList_append, String.toList_ofList] at hlist
  exact hexDigits_toNat_injective (by decide) (List.append_cancel_left hlist)

/-- What is hashed of a request. -/
def orderRequestBytes (ryu : BitVec 64 → String) (input : NormalizedCreateOrderInput) :
    List UInt8 :=
  (canonicalOrderRequest ryu input).toUTF8.data.toList

theorem canonicalOrderRequest_of_bytes
    (h : orderRequestBytes ryu input = orderRequestBytes ryu input') :
    canonicalOrderRequest ryu input = canonicalOrderRequest ryu input' := by
  have hbytes : (canonicalOrderRequest ryu input).toUTF8 = (canonicalOrderRequest ryu input').toUTF8 :=
    ByteArray.ext (Array.toList_inj.mp h)
  exact String.toByteArray_inj.mp hbytes

end Canonical

/-- What the normal form of a request is. -/
theorem normalizeCreateOrderInput_eq_ok {input : CreateOrderInput}
    {normalized : NormalizedCreateOrderInput}
    (h : normalizeCreateOrderInput input = .ok normalized) :
    normalized = ⟨trimText input.externalId, input.expectedAmountRaw, input.ttlSeconds,
        sortJsonValue input.metadata.orEmptyObject⟩ := by
  unfold normalizeCreateOrderInput at h
  obtain ⟨-, h⟩ := ensure_bind_eq_ok.mp h
  obtain ⟨-, h⟩ := ensure_bind_eq_ok.mp h
  obtain ⟨-, h⟩ := ensure_bind_eq_ok.mp h
  obtain ⟨metadata, hmetadata, h⟩ := Except.bind_eq_ok.mp h
  rw [← Except.pure_eq_ok.mp h]
  unfold canonicalMetadata at hmetadata
  split at hmetadata
  · rename_i hnull
    rw [← Except.ok.inj hmetadata, hnull, JsonValue.orEmptyObject, sortJsonValue, sortJsonFields]
  · rename_i fields hobject
    rw [← Except.ok.inj hmetadata, hobject]
    rfl
  · cases hmetadata

theorem JsonValue.WellFormed.orEmptyObject {v : JsonValue} (hv : v.WellFormed) :
    v.orEmptyObject.WellFormed := by
  cases v with
  | null => exact .object List.nodup_nil (fun f hf => absurd hf List.not_mem_nil)
  | _ => exact hv

/-- **The identity of a request.** Two requests that are accepted have one hash exactly if their
trimmed external ids, their amounts, their times to live and, up to the order of keys and with
nothing for the empty object, their metadata are the same; and sorting twice is sorting once. -/
theorem orderRequestHash_eq_iff (keccak256 : List UInt8 → BitVec 256) {ryu : BitVec 64 → String}
    (hryu : PrintsDoubles ryu) {input input' : CreateOrderInput}
    {normalized normalized' : NormalizedCreateOrderInput}
    (hinput : normalizeCreateOrderInput input = .ok normalized)
    (hinput' : normalizeCreateOrderInput input' = .ok normalized')
    (hv : input.metadata.WellFormed) (hv' : input'.metadata.WellFormed)
    (hkeccak : keccak256 (orderRequestBytes ryu normalized)
        = keccak256 (orderRequestBytes ryu normalized') →
      orderRequestBytes ryu normalized = orderRequestBytes ryu normalized') :
    (canonicalOrderRequestHash keccak256 ryu normalized
        = canonicalOrderRequestHash keccak256 ryu normalized'
      ↔ trimText input.externalId = trimText input'.externalId
        ∧ input.expectedAmountRaw = input'.expectedAmountRaw
        ∧ input.ttlSeconds = input'.ttlSeconds
        ∧ input.metadata.orEmptyObject.SameUpToKeyOrder input'.metadata.orEmptyObject)
      ∧ ∀ v : JsonValue, sortJsonValue (sortJsonValue v) = sortJsonValue v := by
  have hnormal := normalizeCreateOrderInput_eq_ok hinput
  have hnormal' := normalizeCreateOrderInput_eq_ok hinput'
  refine ⟨?_, sortJsonValue_idem⟩
  constructor
  · intro h
    have htext := canonicalOrderRequest_of_bytes (hkeccak (hashText_inj h))
    have hwf : normalized.metadata.WellFormed := by
      rw [hnormal]
      exact hv.orEmptyObject.sort
    have hwf' : normalized'.metadata.WellFormed := by
      rw [hnormal']
      exact hv'.orEmptyObject.sort
    obtain ⟨hid, hamount, httl, hmetadata⟩ := canonicalOrderRequest_inj hryu hwf hwf' htext
    rw [hnormal, hnormal'] at hid hamount httl hmetadata
    exact ⟨hid, hamount, httl, .of_sort_eq hv.orEmptyObject _ hv'.orEmptyObject hmetadata⟩
  · rintro ⟨hid, hamount, httl, hsame⟩
    rw [hnormal, hnormal', hid, hamount, httl, hsame.sort_eq hv.orEmptyObject hv'.orEmptyObject]

namespace SmallRequest

/-- Two numbers, in an array. -/
def point (first second : String × JsonValue) : JsonValue := .array [.object [first, second]]

/-- A request with some metadata. -/
def request (externalId : String) (metadata : JsonValue) : CreateOrderInput :=
  ⟨externalId, 100, 900, metadata⟩

/-- Metadata, -/
def metadata : JsonValue :=
  .object [("points", point ("y", .number (.posInt 2)) ("x", .number (.posInt 1))), ("note", .null)]

/-- and the same with its keys in order. -/
def sortedMetadata : JsonValue :=
  .object [("note", .null), ("points", point ("x", .number (.posInt 1)) ("y", .number (.posInt 2)))]

/-- The text of a double by its bits; there are none in the requests. -/
def printBits (bits : BitVec 64) : String := "0." ++ toString bits.toNat

theorem printBits_printsDoubles : PrintsDoubles printBits where
  injective a b _ _ h := by
    have hlist := congrArg String.toList h
    unfold printBits at hlist
    rw [String.toList_append, String.toList_append] at hlist
    exact BitVec.eq_of_toNat_eq
      (Nat.repr_inj.mp (String.toList_inj.mp (List.append_cancel_left hlist)))
  number a _ c hc := by
    unfold printBits at hc
    rw [String.toList_append, List.mem_append] at hc
    rcases hc with hc | hc
    · have hall : ∀ c ∈ "0.".toList, isNumberChar c = true := by simp [isNumberChar]
      exact hall c hc
    · exact isNumberChar_of_isDigit (isDigit_of_mem_repr hc)
  marked a _ := by
    refine ⟨'.', ?_, Or.inl rfl⟩
    unfold printBits
    rw [String.toList_append]
    exact List.mem_append_left _ (by simp)

theorem normalize_metadata :
    normalizeCreateOrderInput (request " order-1" metadata)
      = .ok ⟨"order-1", 100, 900, sortedMetadata⟩ := by
  rfl

theorem normalize_sortedMetadata :
    normalizeCreateOrderInput (request "order-1" sortedMetadata)
      = .ok ⟨"order-1", 100, 900, sortedMetadata⟩ := by
  rfl

theorem wellFormed_point {f g : String × JsonValue} (hne : f.1 ≠ g.1) (hf : f.2.WellFormed)
    (hg : g.2.WellFormed) : (point f g).WellFormed := by
  refine .array (fun v hv => ?_)
  rw [List.mem_singleton.mp hv]
  refine .object (by simpa using hne) (fun h hh => ?_)
  rcases List.mem_pair.mp hh with rfl | rfl
  · exact hf
  · exact hg

theorem wellFormed_metadata : metadata.WellFormed := by
  refine .object (by decide) (fun f hf => ?_)
  rcases List.mem_pair.mp hf with rfl | rfl
  · exact wellFormed_point (by decide) (.number trivial) (.number trivial)
  · exact .null

theorem wellFormed_sortedMetadata : sortedMetadata.WellFormed := by
  refine .object (by decide) (fun f hf => ?_)
  rcases List.mem_pair.mp hf with rfl | rfl
  · exact .null
  · exact wellFormed_point (by decide) (.number trivial) (.number trivial)

/-- The hash of the request. -/
def requestHash (_ : List UInt8) : BitVec 256 :=
  0xc92a25fce30dedbf0aaed526f2d7e49cff3a82f2c22ef83dade15564065892ad

end SmallRequest

open SmallRequest in
/-- A request repeated with its keys in another order, at two depths, has the same hash, and so
the same metadata up to the order of keys. -/
theorem orderRequestHash_eq_of_reordered :
    canonicalOrderRequestHash requestHash printBits ⟨"order-1", 100, 900, sortedMetadata⟩
        = "0xc92a25fce30dedbf0aaed526f2d7e49cff3a82f2c22ef83dade15564065892ad"
      ∧ metadata.orEmptyObject.SameUpToKeyOrder sortedMetadata.orEmptyObject := by
  refine ⟨by decide +kernel, ?_⟩
  exact ((orderRequestHash_eq_iff requestHash printBits_printsDoubles normalize_metadata
    normalize_sortedMetadata wellFormed_metadata wellFormed_sortedMetadata (fun _ => rfl)).1.mp
    rfl).2.2.2
