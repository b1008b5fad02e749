import Pay3.Config

/-!
# The aliases of a setting

A setting of the environment loader goes by several names, and the loader takes the
first of them that is there. `EnvPairs::has_any` counts a name as there when its value is
not blank. `EnvPairs::optional` looks for a name that is there at all, and only then at its
value: a variable that is declared and left blank ends the search, and the aliases
behind it are not read.

So the two agree, and the setting is that of the first alias that is set, unless an alias
that is set stands behind a blank one (`optional_fallsThroughBlanks_iff`).
-/

namespace Config

variable {values : Environment} {key : String} {keys : List String} {value : String}

/-! ## One alias after the other -/

theorem optional_cons_of_none (h : envVar values key = none) :
    optional values (key :: keys) = optional values keys := by
  unfold optional
  rw [List.findSome?_cons, h]

theorem optional_cons_of_some (h : envVar values key = some value) :
    optional values (key :: keys) = envNonBlank values key := by
  unfold optional envNonBlank
  rw [List.findSome?_cons, h]

theorem hasAny_cons :
    hasAny values (key :: keys) = ((envNonBlank values key).isSome || hasAny values keys) :=
  List.any_cons

theorem hasAny_eq_false_iff :
    hasAny values keys = false ↔ ∀ k ∈ keys, envNonBlank values k = none := by
  unfold hasAny
  simp only [List.any_eq_false, Bool.not_eq_true, Option.isSome_eq_false_iff, Option.isNone_iff_eq_none]

theorem envNonBlank_of_none (h : envVar values key = none) : envNonBlank values key = none := by
  unfold envNonBlank
  rw [h]
  rfl

/-! ## Falling through blanks -/

/-- **The value of the first alias that is set** to something. -/
def firstNonBlank (values : Environment) (keys : List String) : Option String :=
  keys.findSome? (envNonBlank values)

/-- **A blank variable hides no alias**: what is read is the first alias that is set, and
nothing is read only where nothing is set. -/
def FallsThroughBlanks (values : Environment) (keys : List String) : Prop :=
  optional values keys = firstNonBlank values keys
    ∧ (optional values keys = none → hasAny values keys = false)

/-- **An alias that is set stands behind a blank one**, and no alias is there in front of
that one. -/
def BlankHides (values : Environment) (keys : List String) : Prop :=
  ∃ before key after, keys = before ++ key :: after
    ∧ (∀ k ∈ before, envVar values k = none)
    ∧ (∃ value, envVar values key = some value ∧ blank value = true)
    ∧ ∃ k ∈ after, (envNonBlank values k).isSome

theorem firstNonBlank_cons_of_none (h : envNonBlank values key = none) :
    firstNonBlank values (key :: keys) = firstNonBlank values keys := by
  unfold firstNonBlank
  rw [List.findSome?_cons, h]

theorem firstNonBlank_cons_of_some (h : envNonBlank values key = some value) :
    firstNonBlank values (key :: keys) = some value := by
  unfold firstNonBlank
  rw [List.findSome?_cons, h]

theorem firstNonBlank_eq_none_iff :
    firstNonBlank values keys = none ↔ hasAny values keys = false := by
  rw [hasAny_eq_false_iff]
  exact List.findSome?_eq_none_iff

/-- Nothing in front of an alias that is not there. -/
theorem blankHides_cons_of_none (h : envVar values key = none) :
    BlankHides values (key :: keys) ↔ BlankHides values keys := by
  constructor
  · rintro ⟨_ | ⟨k, before⟩, key', after, heq, hbefore, ⟨value, hvalue, hblank⟩, hafter⟩
    · obtain ⟨rfl, rfl⟩ := List.cons.inj heq
      rw [h] at hvalue
      cases hvalue
    · obtain ⟨rfl, rfl⟩ := List.cons.inj heq
      exact ⟨before, key', after, rfl, fun k hk => hbefore k (List.mem_cons_of_mem _ hk),
        ⟨value, hvalue, hblank⟩, hafter⟩
  · rintro ⟨before, key', after, rfl, hbefore, hblank, hafter⟩
    refine ⟨key :: before, key', after, rfl, fun k hk => ?_, hblank, hafter⟩
    rcases List.mem_cons.mp hk with rfl | hk
    · exact h
    · exact hbefore k hk

/-- The first alias that is there is the one that can hide others. -/
theorem blankHides_cons_of_some (h : envVar values key = some value) :
    BlankHides values (key :: keys) ↔ blank value = true ∧ hasAny values keys = true := by
  constructor
  · rintro ⟨_ | ⟨k, before⟩, key', after, heq, hbefore, ⟨value', hvalue, hblank⟩, k', hk', hset⟩
    · obtain ⟨rfl, rfl⟩ := List.cons.inj heq
      rw [h] at hvalue
      obtain rfl := Option.some.inj hvalue
      exact ⟨hblank, List.any_eq_true.mpr ⟨k', hk', hset⟩⟩
    · obtain ⟨rfl, rfl⟩ := List.cons.inj heq
      have hnone := hbefore key List.mem_cons_self
      rw [h] at hnone
      cases hnone
  · rintro ⟨hblank, hany⟩
    obtain ⟨k, hk, hset⟩ := List.any_eq_true.mp hany
    refine ⟨[], key, keys, rfl, fun k hk => ?_, ⟨value, h, hblank⟩, k, hk, hset⟩
    cases hk

/-- **Aliases fall through blanks unless a blank one hides one that is set.** -/
theorem fallsThroughBlanks_iff_not_blankHides :
    FallsThroughBlanks values keys ↔ ¬ BlankHides values keys := by
  induction keys with
  | nil =>
    refine iff_of_true ⟨rfl, fun _ => rfl⟩ ?_
    rintro ⟨before, key, after, heq, -⟩
    exact List.append_ne_nil_of_right_ne_nil before (List.cons_ne_nil key after) heq.symm
  | cons key keys ih =>
    cases hvar : envVar values key with
    | none =>
      have hset := envNonBlank_of_none hvar
      rw [blankHides_cons_of_none hvar, ← ih]
      unfold FallsThroughBlanks
      rw [optional_cons_of_none hvar, firstNonBlank_cons_of_none hset, hasAny_cons, hset]
      rfl
    | some value =>
      rw [blankHides_cons_of_some hvar]
      unfold FallsThroughBlanks
      rw [optional_cons_of_some hvar, hasAny_cons]
      cases hblank : blank value with
      | false =>
        have hset : envNonBlank values key = some value := by
          unfold envNonBlank
          rw [hvar, Option.filter_some, hblank]
          rfl
        rw [hset, firstNonBlank_cons_of_some hset]
        exact iff_of_true ⟨rfl, fun h => by cases h⟩ (fun h => absurd h.1 Bool.false_ne_true)
      | true =>
        have hset : envNonBlank values key = none := by
          unfold envNonBlank
          rw [hvar, Option.filter_some, hblank]
          rfl
        rw [hset, firstNonBlank_cons_of_none hset]
        cases hany : hasAny values keys with
        | false =>
          rw [firstNonBlank_eq_none_iff.mpr hany]
          exact iff_of_true ⟨rfl, fun _ => rfl⟩ (fun h => absurd h.2 Bool.false_ne_true)
        | true =>
          refine iff_of_false (fun h => ?_) (fun h => h ⟨rfl, rfl⟩)
          exact absurd (h.2 rfl) (by decide)

/-- **The aliases of the environment loader**: they fall through blanks exactly when no
alias that is set stands behind a blank one. -/
theorem optional_fallsThroughBlanks_iff (pairs : Environment) (keys : List String) :
    FallsThroughBlanks (EnvPairs.new pairs) keys ↔ ¬ BlankHides (EnvPairs.new pairs) keys :=
  fallsThroughBlanks_iff_not_blankHides

/-- The endpoint of the remote signer is set under its second name, and the first is
declared and left blank: no endpoint is read. -/
theorem blank_endpoint_hides_alias :
    ¬ ∀ (pairs : Environment) (keys : List String),
      FallsThroughBlanks (EnvPairs.new pairs) keys := by
  intro h
  have hnone : optional (EnvPairs.new [("SIGNER_REMOTE_ENDPOINT", ""),
      ("SIGNER_ENDPOINT", "https://signer")])
      ["SIGNER_REMOTE_ENDPOINT", "SIGNER_ENDPOINT", "REMOTE_SIGNER_ENDPOINT"] = none := by decide
  have hany := (h _ _).2 hnone
  revert hany
  decide

/-! ## Reading a secret and looking for one -/

/-- What is read is there. -/
theorem hasAny_of_optional (h : optional values keys = some value) : hasAny values keys = true := by
  induction keys with
  | nil => cases h
  | cons key keys ih =>
    rw [hasAny_cons]
    cases hvar : envVar values key with
    | none =>
      rw [optional_cons_of_none hvar] at h
      rw [ih h, Bool.or_true]
    | some value' =>
      rw [optional_cons_of_some hvar] at h
      rw [h, Option.isSome_some, Bool.true_or]

/-- **A mnemonic that is read is reported as secret material**: its names are among those
of the secrets. One that a blank alias hides is reported, and not read. -/
theorem secretMaterialPresent_of_mnemonic {signer : SignerConfig} {mnemonic : String}
    (h : pairsSigner values = .ok signer) (hread : signer.mnemonic = some mnemonic) :
    signer.secretMaterialPresent = true := by
  obtain ⟨hmnemonic, hsecret⟩ := pairsSigner_eq_ok h
  rw [hmnemonic] at hread
  have hnames : ∀ key ∈ ["SIGNER_MNEMONIC", "LOCAL_SIGNER_MNEMONIC", "SIGNER_SERVICE_MNEMONIC"],
      key ∈ localSignerSecretKeys := by decide
  obtain ⟨key, hkey, hset⟩ := List.any_eq_true.mp (hasAny_of_optional hread)
  rw [hsecret]
  exact List.any_eq_true.mpr ⟨key, hnames key hkey, hset⟩

end Config
