import Pay3.Config
import Mathlib.Data.List.DropRight
import Mathlib.Data.List.TakeWhile

/-!
# No plaintext key in production

In production a process must not start with the mnemonic or the private key of
a signer in its environment: `LOCAL_SIGNER_SECRET_KEYS` names the variables, and
`validate_profile` refuses a configuration that has secret material present.

Whether there is any is for the loader to say. The environment loader looks at
all the variables, under trimmed names; the YAML loader looks at three of them
only, and there any value counts, even a blank one. So a YAML file can be
accepted beside a key in one of the other six (`production_refuses_secrets`).
-/

namespace Config

/-! ## Blank text -/

/-- A text is blank when it is all whitespace. -/
theorem blank_iff {value : String} :
    blank value = true ↔ ∀ c ∈ value.toList, isRustWhitespace c = true := by
  have hempty : blank value = true ↔
      (value.toList.dropWhile isRustWhitespace).reverse.dropWhile isRustWhitespace = [] := by
    rw [blank, decide_eq_true_iff, trimText, ← String.toList_inj, String.toList_ofList]
    exact List.reverse_eq_nil_iff
  rw [hempty, List.dropWhile_eq_nil_iff]
  constructor
  · intro hall
    by_contra hsome
    have hne : value.toList.dropWhile isRustWhitespace ≠ [] :=
      fun hnil => hsome (List.dropWhile_eq_nil_iff.mp hnil)
    -- the first character that is left is no whitespace
    have hhead := List.head_dropWhile_not isRustWhitespace hne
    rw [hall _ (List.mem_reverse.mpr (List.head_mem hne))] at hhead
    cases hhead
  · intro hall c hc
    exact hall c (List.dropWhile_subset isRustWhitespace (List.mem_reverse.mp hc))

/-- Trimming once is enough. -/
theorem blank_trimText (value : String) : blank (trimText value) = blank value := by
  rw [Bool.eq_iff_iff, blank_iff, blank, decide_eq_true_iff, ← String.toList_inj, trimText,
    String.toList_ofList]
  constructor
  · intro hall
    have hnil : ((value.toList.dropWhile isRustWhitespace).reverse.dropWhile
        isRustWhitespace).dropWhile isRustWhitespace = [] :=
      List.dropWhile_eq_nil_iff.mpr (fun c hc => hall c (List.mem_reverse.mpr hc))
    rw [List.dropWhile_idempotent] at hnil
    rw [hnil]
    rfl
  · intro hnil c hc
    rw [hnil] at hc
    cases hc

/-! ## Texts without variables -/

/-- A text without a dollar sign is left as it is. -/
theorem expandEnvVars_of_notMem {env : Environment} {raw : String} (h : '$' ∉ raw.toList) :
    expandEnvVars env raw = raw := by
  have hloop : ∀ (chars : List Char) (fuel : ℕ), chars.length < fuel → '$' ∉ chars →
      expandLoop env fuel chars = chars := by
    intro chars
    induction chars with
    | nil =>
      intro fuel hfuel _
      obtain ⟨fuel, rfl⟩ := Nat.exists_eq_succ_of_ne_zero (Nat.ne_of_gt hfuel)
      rfl
    | cons c chars ih =>
      intro fuel hfuel hnone
      obtain ⟨fuel, rfl⟩ := Nat.exists_eq_succ_of_ne_zero (Nat.ne_of_gt (Nat.zero_lt_of_lt hfuel))
      have hc : c ≠ '$' := fun heq => hnone (heq ▸ List.mem_cons_self)
      have hrest := ih fuel (Nat.lt_of_succ_lt_succ hfuel)
        (fun hmem => hnone (List.mem_cons_of_mem _ hmem))
      rw [expandLoop, hrest]
      exact fun _ heq => absurd heq hc
  rw [expandEnvVars, hloop _ _ (Nat.lt_succ_self _) h, String.ofList_toList]

/-! ## The secrets of an environment -/

/-- **Every secret is unset or blank.** -/
def SecretsBlank (env : Environment) : Prop :=
  ∀ key ∈ localSignerSecretKeys, envNonBlank env key = none

/-- The secrets the YAML loader looks at. -/
def yamlCheckedKeys : List String :=
  ["SIGNER_MNEMONIC", "LOCAL_SIGNER_MNEMONIC", "SIGNER_PRIVATE_KEY"]

/-- The secrets the YAML loader does not look at are unset or blank. -/
def UncheckedBlank (env : Environment) : Prop :=
  ∀ key ∈ localSignerSecretKeys, key ∉ yamlCheckedKeys → envNonBlank env key = none

/-- A variable is set that keeps every YAML file from being accepted. -/
def YamlRefused (env : Environment) : Prop :=
  ∃ key ∈ "JWT_SECRET" :: yamlCheckedKeys, (envVar env key).isSome

/-- **One variable for each secret**: no two have names that are the secret's,
up to blanks around them. -/
def Unshadowed (env : Environment) : Prop :=
  ∀ key ∈ localSignerSecretKeys,
    (env.filter (fun entry => decide (trimText entry.1 = key))).length ≤ 1

/-- The YAML loader's rule: a file that is accepted in production is accepted
beside no secret. -/
def YamlRefusesSecrets (libs : ConfigLibraries) (env : Environment) : Prop :=
  ∀ yaml config, fromYamlStr libs env yaml = .ok config → config.profile = .production →
    validateProfile libs config = .ok () → SecretsBlank env

/-- The environment loader's rule. -/
def PairsRefuseSecrets (libs : ConfigLibraries) (env : Environment) : Prop :=
  ∀ config, fromPairs libs env = .ok config → config.profile = .production →
    validateProfile libs config = .ok () → SecretsBlank env

variable {libs : ConfigLibraries} {env : Environment} {config : AppConfig}

/-! ## The environment loader -/

/-- A variable that is alone under its trimmed name is what the loader sees. -/
theorem envVar_new {key value : String}
    (halone : (env.filter (fun entry => decide (trimText entry.1 = key))).length ≤ 1)
    (hkey : trimText key = key) (h : envVar env key = some value) :
    envVar (EnvPairs.new env) key = some (trimText value) := by
  obtain ⟨entry, hfind, rfl⟩ := Option.map_eq_some_iff.mp h
  have hname : entry.1 = key := by simpa using List.find?_some hfind
  have hmem : entry ∈ env.filter (fun entry => decide (trimText entry.1 = key)) :=
    List.mem_filter.mpr ⟨List.mem_of_find?_eq_some hfind,
      decide_eq_true ((congrArg trimText hname).trans hkey)⟩
  have hsingle : env.filter (fun entry => decide (trimText entry.1 = key)) = [entry] := by
    cases hlist : env.filter (fun entry => decide (trimText entry.1 = key)) with
    | nil => rw [hlist] at hmem; cases hmem
    | cons first rest =>
      rw [hlist, List.length_cons] at halone
      obtain rfl : rest = [] := List.eq_nil_of_length_eq_zero (by omega)
      rw [hlist] at hmem
      rw [List.mem_singleton.mp hmem]
  have hcomp : ((fun entry => decide (entry.1 = key)) ∘ fun entry : String × String =>
      (trimText entry.1, trimText entry.2)) = fun entry => decide (trimText entry.1 = key) :=
    funext (fun entry => by simp only [Function.comp_apply])
  rw [envVar, EnvPairs.new, ← List.head?_filter, List.filter_reverse, List.filter_map, hcomp,
    hsingle, List.map_singleton, List.reverse_singleton, List.head?_cons, Option.map_some]

/-- **The environment loader sees every secret**, unless another variable shadows
it. -/
theorem pairsRefuseSecrets (h : Unshadowed env) : PairsRefuseSecrets libs env := by
  intro config hloaded hproduction haccepted key hkey
  have hpresent := (secretMaterialPresent_of_validateProfile haccepted hproduction).1
  have hsigner : config.signer.secretMaterialPresent
      = hasAny (EnvPairs.new env) localSignerSecretKeys :=
    (pairsSigner_eq_ok (fromPairs_eq_ok hloaded).1).2
  have htrim : ∀ key ∈ localSignerSecretKeys, trimText key = key := by decide +kernel
  rw [hsigner, hasAny, List.any_eq_false] at hpresent
  have hnone := hpresent key hkey
  by_contra hsecret
  obtain ⟨value, hvalue⟩ := Option.ne_none_iff_exists'.mp hsecret
  obtain ⟨hvar, hnonblank⟩ := Option.filter_eq_some_iff.mp hvalue
  have hseen := envVar_new (h key hkey) (htrim key hkey) hvar
  refine hnone ?_
  rw [envNonBlank, hseen, Option.filter_some, blank_trimText, if_pos hnonblank]
  rfl

/-! ## The YAML loader -/

/-- What the YAML loader knows of the environment: any value of the variables it
looks at. -/
theorem fromYamlStr_present {yaml : String} (h : fromYamlStr libs env yaml = .ok config) :
    (∀ key ∈ yamlCheckedKeys, (envVar env key).isSome →
        config.signer.secretMaterialPresent = true)
      ∧ ((envVar env "JWT_SECRET").isSome → config.jwt.legacySecretPresent = true) := by
  obtain ⟨file, -, h⟩ := fromYamlStr_eq_ok.mp h
  obtain ⟨hjwt, hsigner, -⟩ := fromFile_eq_ok h
  constructor
  · unfold yamlSigner at hsigner
    obtain ⟨_, -, hsigner⟩ := Except.bind_eq_ok.mp hsigner
    rw [← Except.ok.inj hsigner]
    intro key hkey hset
    simp only [yamlCheckedKeys, List.mem_cons, List.not_mem_nil, or_false] at hkey
    obtain rfl | rfl | rfl := hkey <;> simp [hset]
  · unfold yamlJwt at hjwt
    obtain ⟨_, -, hjwt⟩ := Except.bind_eq_ok.mp hjwt
    rw [← Except.ok.inj hjwt]
    intro hset
    simp [hset]

/-- A file that is accepted in production beside an environment in which nothing
the YAML loader looks at is set. -/
def productionFile : MultiTokenConfigFile where
  server := some { profile := some "production" }
  databaseUrl := some "postgres://pay3@db:5432/pay3"
  signer := {
    mode := "external"
    keyRef := some "pay3-master"
    allowLocalSigner := some false
    endpoint := some "https://signer.local"
    bearerToken := some "prod-signer-token"
    allowInsecureRemoteSigner := some false }
  auth := some {
    jwksUrl := some "https://auth.local/jwks.json"
    issuer := some "pay3"
    audience := some "pay3-api"
    keyId := some "pay3-key-1" }
  tokens := [{
    chainId := 1
    tokenAddress := "0x1111111111111111111111111111111111111111"
    treasuryAddress := "0x2222222222222222222222222222222222222222"
    problemFundsAddress := some "0x3333333333333333333333333333333333333333"
    rpcUrls := ["http://localhost:8545", "http://localhost:8546"] }]

/-- The lines of a text. -/
def ofLines : List String → String
  | [] => ""
  | line :: lines => line ++ "\n" ++ ofLines lines

theorem notMem_ofLines {lines : List String} (h : ∀ line ∈ lines, '$' ∉ line.toList) :
    '$' ∉ (ofLines lines).toList := by
  induction lines with
  | nil => decide
  | cons line lines ih =>
    rw [ofLines, String.toList_append, String.toList_append, List.mem_append, List.mem_append,
      not_or, not_or]
    exact ⟨⟨h line List.mem_cons_self, by decide⟩,
      ih (fun line hline => h line (List.mem_cons_of_mem _ hline))⟩

/-- The lines of its text. -/
def productionLines : List String :=
  ["server:",
    "  profile: production",
    "database:",
    "  url: postgres://pay3@db:5432/pay3",
    "signer:",
    "  mode: external",
    "  key_ref: pay3-master",
    "  allow_local_signer: false",
    "  endpoint: https://signer.local",
    "  bearer_token: prod-signer-token",
    "  allow_insecure_remote_signer: false",
    "auth:",
    "  jwks_url: https://auth.local/jwks.json",
    "  issuer: pay3",
    "  audience: pay3-api",
    "  key_id: pay3-key-1",
    "tokens:",
    "  - chain_id: 1",
    "    token_address: '0x1111111111111111111111111111111111111111'",
    "    treasury_address: '0x2222222222222222222222222222222222222222'",
    "    problem_funds_address: '0x3333333333333333333333333333333333333333'",
    "    rpc_urls:",
    "      - http://localhost:8545",
    "      - http://localhost:8546"]

/-- Its text. -/
def productionYaml : String := ofLines productionLines

/-- **What the libraries make of it**: `serde_yaml` reads the file, and the
standard library the address it is served at. -/
structure ReadsProduction (libs : ConfigLibraries) : Prop where
  yaml : libs.yamlFromStr productionYaml = .ok productionFile
  bindAddr : libs.parseSocketAddr "0.0.0.0:8080" = .ok ⟨[0, 0, 0, 0], 8080⟩

/-- Libraries that read this file and no other. -/
def productionLibs : ConfigLibraries where
  parseSocketAddr text :=
    if text = "0.0.0.0:8080" then .ok ⟨[0, 0, 0, 0], 8080⟩ else .error "invalid socket address"
  yamlFromStr text := if text = productionYaml then .ok productionFile else .error "other file"
  jsonFromStr _ := none

theorem productionLibs_reads : ReadsProduction productionLibs where
  yaml := by simp only [productionLibs, if_true]
  bindAddr := by simp only [productionLibs, if_true]

/-- The file is read the same way in every environment that sets nothing the
loader looks at. -/
theorem fromFile_productionFile (hlibs : ReadsProduction libs) (h : ¬ YamlRefused env) :
    fromFile libs env productionFile = fromFile productionLibs [] productionFile := by
  have hunset : ∀ key ∈ "JWT_SECRET" :: yamlCheckedKeys, envVar env key = none := by
    intro key hkey
    by_contra hset
    exact h ⟨key, hkey, Option.isSome_iff_ne_none.mpr hset⟩
  have hjwt : envVar env "JWT_SECRET" = none := hunset _ (by decide)
  have hmnemonic : envVar env "SIGNER_MNEMONIC" = none := hunset _ (by decide)
  have hlocal : envVar env "LOCAL_SIGNER_MNEMONIC" = none := hunset _ (by decide)
  have hprivate : envVar env "SIGNER_PRIVATE_KEY" = none := hunset _ (by decide)
  have hempty : ∀ key, envVar [] key = none := fun key => rfl
  have hdatabase : yamlDatabaseUrl env productionFile = yamlDatabaseUrl [] productionFile := by
    have hurl : trimmedNonBlank productionFile.databaseUrl
        = some "postgres://pay3@db:5432/pay3" := by decide +kernel
    rw [yamlDatabaseUrl, yamlDatabaseUrl, hurl, Option.some_or, Option.some_or]
  have hauth : yamlJwt env (productionFile.auth.getD {})
      = yamlJwt [] (productionFile.auth.getD {}) := by
    simp only [productionFile, Option.getD_some, yamlJwt, yamlKeySource, Option.some_or,
      envNonBlank, hjwt, hempty]
  have hsigner : yamlSigner env productionFile.signer = yamlSigner [] productionFile.signer := by
    have hbearer : trimmedNonBlank (some "prod-signer-token") = some "prod-signer-token" := by
      decide +kernel
    simp only [yamlSigner, hbearer, Option.some_or, envNonBlank, hmnemonic, hlocal, hprivate,
      hempty, productionFile]
  unfold fromFile
  rw [hdatabase, hauth, hsigner]
  have hbind : (productionFile.server.bind ServerYamlConfig.bindAddr).getD "0.0.0.0:8080"
      = "0.0.0.0:8080" := rfl
  simp only [hbind, hlibs.bindAddr, productionLibs_reads.bindAddr]

/-- The libraries play no part in the checks of a remote key source. -/
theorem validateProfile_remoteJwks {libs' : ConfigLibraries} {url : String}
    (h : config.jwt.keySource = .remoteJwks url) :
    validateProfile libs config = validateProfile libs' config := by
  unfold validateProfile profileErrors productionErrors
  rw [h]
  rfl

/-- **The file is accepted in production** beside every environment that sets
nothing the loader looks at. -/
theorem production_accepted (hlibs : ReadsProduction libs) (h : ¬ YamlRefused env) :
    ∃ config, fromYamlStr libs env productionYaml = .ok config ∧ config.profile = .production
      ∧ validateProfile libs config = .ok () := by
  have hload : ((fromFile productionLibs [] productionFile).toOption).map (fun config =>
      decide (config.profile = .production
        ∧ config.jwt.keySource = .remoteJwks "https://auth.local/jwks.json"
        ∧ validateProfile productionLibs config = .ok ())) = some true := by
    decide +kernel
  obtain ⟨config, hconfig, hfacts⟩ := Option.map_eq_some_iff.mp hload
  obtain ⟨hproduction, hremote, haccepted⟩ := of_decide_eq_true hfacts
  refine ⟨config, ?_, hproduction, (validateProfile_remoteJwks hremote).trans haccepted⟩
  have hplain : '$' ∉ productionYaml.toList := notMem_ofLines (by decide +kernel)
  refine fromYamlStr_eq_ok.mpr ⟨productionFile, ?_, ?_⟩
  · rw [expandEnvVars_of_notMem hplain]
    exact hlibs.yaml
  · rw [fromFile_productionFile hlibs h]
    exact Except.toOption_eq_some.mp hconfig

/-- **Production and plaintext keys.** The YAML loader refuses every environment
with a secret exactly when the secrets it does not look at are blank, or one of
the variables it does look at is set anyway; the environment loader does so
whenever no variable shadows a secret. -/
theorem production_refuses_secrets (libs : ConfigLibraries) (hlibs : ReadsProduction libs)
    (env : Environment) :
    (YamlRefusesSecrets libs env ↔ UncheckedBlank env ∨ YamlRefused env)
      ∧ (Unshadowed env → PairsRefuseSecrets libs env) := by
  refine ⟨⟨fun hrule => ?_, fun hcases => ?_⟩, pairsRefuseSecrets⟩
  · by_cases hrefused : YamlRefused env
    · exact Or.inr hrefused
    · obtain ⟨config, hloaded, hproduction, haccepted⟩ := production_accepted hlibs hrefused
      have hblank := hrule _ config hloaded hproduction haccepted
      exact Or.inl (fun key hkey _ => hblank key hkey)
  · intro yaml config hloaded hproduction haccepted key hkey
    obtain ⟨hsecret, hlegacy⟩ := secretMaterialPresent_of_validateProfile haccepted hproduction
    obtain ⟨hpresent, hjwt⟩ := fromYamlStr_present hloaded
    have hunset : ∀ key ∈ yamlCheckedKeys, envVar env key = none := by
      intro key hkey
      by_contra hset
      rw [hpresent key hkey (Option.isSome_iff_ne_none.mpr hset)] at hsecret
      cases hsecret
    obtain hunchecked | ⟨key', hkey', hset⟩ := hcases
    · by_cases hchecked : key ∈ yamlCheckedKeys
      · rw [envNonBlank, hunset key hchecked, Option.filter_none]
      · exact hunchecked key hkey hchecked
    · obtain rfl | hchecked := List.mem_cons.mp hkey'
      · rw [hjwt hset] at hlegacy
        cases hlegacy
      · rw [hunset key' hchecked] at hset
        cases hset

/-- An environment without secrets. -/
theorem production_refuses_secrets_path :
    YamlRefusesSecrets productionLibs [("PATH", "/usr/bin")]
      ∧ PairsRefuseSecrets productionLibs [("PATH", "/usr/bin")] := by
  obtain ⟨hyaml, hpairs⟩ :=
    production_refuses_secrets productionLibs productionLibs_reads [("PATH", "/usr/bin")]
  exact ⟨hyaml.mpr (Or.inl (show ∀ key ∈ localSignerSecretKeys, _ by decide +kernel)),
    hpairs (show ∀ key ∈ localSignerSecretKeys, _ by decide +kernel)⟩

/-- **A key in production**: an extended private key is in the environment, and
the YAML file is accepted in production all the same. -/
theorem xprv_accepted :
    ∃ config, fromYamlStr productionLibs [("SIGNER_XPRV", "xprv9s21ZrQH143K")] productionYaml
        = .ok config
      ∧ config.profile = .production ∧ validateProfile productionLibs config = .ok ()
      ∧ ¬ SecretsBlank [("SIGNER_XPRV", "xprv9s21ZrQH143K")] := by
  have hrefused : ¬ YamlRefused [("SIGNER_XPRV", "xprv9s21ZrQH143K")] :=
    (show ¬ ∃ key ∈ "JWT_SECRET" :: yamlCheckedKeys,
      (envVar [("SIGNER_XPRV", "xprv9s21ZrQH143K")] key).isSome by decide +kernel)
  obtain ⟨config, hloaded, hproduction, haccepted⟩ :=
    production_accepted productionLibs_reads hrefused
  refine ⟨config, hloaded, hproduction, haccepted, fun hblank => ?_⟩
  have hset : envNonBlank [("SIGNER_XPRV", "xprv9s21ZrQH143K")] "SIGNER_XPRV" ≠ none := by
    decide +kernel
  exact hset (hblank "SIGNER_XPRV" (by decide))

end Config
