import Pay3.CollectionService
import Pay3.PaymentRepository
import Pay3.RpcValues
import Mathlib.Data.List.Dedup

/-!
# The configuration of a process

A process is configured by its environment alone, with one token, or by a YAML
file with any number of tokens, where the environment fills in what the file
leaves open. `AppConfig.validateProfile` then says whether the process starts.

The environment is a list of named values. The environment loader trims names
and values and keeps the last value of each trimmed name; the YAML loader asks
for the variables one by one, by their exact names.

What the libraries read from text (a socket address, a YAML file, a JSON value)
is a parameter, `ConfigLibraries`.
-/

namespace Config

/-! ## Errors and text -/

/-- `ConfigError`. -/
inductive ConfigError
  | missing (key : String)
  | invalidValue (key value reason : String)
  | validation (errors : List String)
  | yaml (error : String)
  | io (error : String)
  deriving DecidableEq

/-- Whether `str::trim` leaves nothing. -/
def blank (value : String) : Bool := decide (trimText value = "")

/-- `to_ascii_lowercase`. -/
def toAsciiLowercase (value : String) : String := String.ofList (value.toList.map Char.toLower)

/-- `replace('-', "_")`. -/
def hyphensReplaced (value : String) : String :=
  String.ofList (value.toList.map (fun c => if c = '-' then '_' else c))

/-- `str::parse` for an unsigned integer below a bound: digits, after a plus
sign or none. -/
def parseUnsigned (bound : ℕ) (value : String) : Option ℕ :=
  let digits : List Char := match value.toList with
    | '+' :: digits => digits
    | digits => digits
  let number := digitsValue 10 (digits.map (fun c => c.toNat - 48))
  if digits ≠ [] ∧ digits.all Char.isDigit ∧ number < bound then some number else none

/-- `parse::<bool>`. -/
def parseBool (value : String) : Option Bool :=
  if value = "true" then some true else if value = "false" then some false else none

/-- `RawAmount::parse_dec_str`, up to which error it is. -/
def parseDecStr (input : String) : Option RawAmount :=
  let digits := (trimText input).toList
  let number := digitsValue 10 (digits.map (fun c => c.toNat - 48))
  if digits ≠ [] ∧ digits.all Char.isDigit ∧ number < 2 ^ 256 then
    some (BitVec.ofNat 256 number)
  else none

/-- `EvmAddress::parse_hex`. -/
def parseHexAddress (value : String) : Except HexParseError EvmAddress :=
  decodePrefixedFixed 20 value "evm address"

/-- `is_https_url`; the slice of eight bytes ends at a character. -/
def isHttpsUrl (value : String) : Bool :=
  decide (((utf8 (trimText value)).take 8).map asciiLowercase = utf8 "https://")

/-! ## The data -/

/-- `AppProfile`. -/
inductive AppProfile
  | development
  | test
  | staging
  | production
  deriving DecidableEq

/-- `AppProfile::parse`. -/
def AppProfile.parse (value : String) : Except ConfigError AppProfile :=
  let normalized := toAsciiLowercase (trimText value)
  if normalized ∈ ["dev", "development", "local"] then .ok .development
  else if normalized ∈ ["test", "testing"] then .ok .test
  else if normalized ∈ ["stage", "staging"] then .ok .staging
  else if normalized ∈ ["prod", "production"] then .ok .production
  else .error (.invalidValue "APP_PROFILE" value
    "expected one of development, test, staging, production")

/-- `RuntimeRole`. -/
inductive RuntimeRole
  | api
  | worker
  | all
  deriving DecidableEq

/-- `RuntimeRole::parse`. -/
def RuntimeRole.parse (value : String) : Except ConfigError RuntimeRole :=
  let normalized := hyphensReplaced (toAsciiLowercase (trimText value))
  if normalized ∈ ["api", "web", "server"] then .ok .api
  else if normalized ∈ ["worker", "workers"] then .ok .worker
  else if normalized ∈ ["all", "combined", "api_worker", "api_workers"] then .ok .all
  else .error (.invalidValue "RUN_ROLE" value "expected one of api, worker, all")

/-- `WorkerEnableConfig`. -/
structure WorkerEnableConfig where
  transferLogIngestor : Bool
  transferLogRetention : Bool
  runtimeReadiness : Bool
  orderExpiry : Bool
  paymentScanner : Bool
  collectionEnqueuer : Bool
  collectionCollector : Bool
  deriving DecidableEq

/-- `any_worker_enabled`; the readiness probe is no worker. -/
def WorkerEnableConfig.anyWorkerEnabled (workers : WorkerEnableConfig) : Bool :=
  workers.transferLogIngestor || workers.transferLogRetention || workers.orderExpiry
    || workers.paymentScanner || workers.collectionEnqueuer || workers.collectionCollector

/-- `RuntimeConfig`. -/
structure RuntimeConfig where
  role : RuntimeRole
  workers : WorkerEnableConfig
  deriving DecidableEq

/-- `workers_enabled`. -/
def RuntimeConfig.workersEnabled (runtime : RuntimeConfig) : Bool :=
  decide (runtime.role = .worker) || decide (runtime.role = .all)

/-- A socket address: the bytes of the IP address, and the port. -/
structure SocketAddr where
  ip : List UInt8
  port : UInt16
  deriving DecidableEq

/-- `KvdbConfig`. -/
structure KvdbConfig where
  path : String
  manualRebuildFloorBlock : Option ℕ
  deriving DecidableEq

/-- `JwtAlgorithm`. -/
inductive JwtAlgorithm
  | hs256
  | rs256
  | edDsa
  deriving DecidableEq

/-- `JwtAlgorithm::parse`. -/
def JwtAlgorithm.parse (value : String) : Except ConfigError JwtAlgorithm :=
  let trimmed := trimText value
  if trimmed = "HS256" then .ok .hs256
  else if trimmed = "RS256" then .ok .rs256
  else if trimmed ∈ ["EdDSA", "EDDSA"] then .ok .edDsa
  else .error (.invalidValue "JWT_ALGORITHM" value "expected one of HS256, RS256, EdDSA")

/-- `is_asymmetric`. -/
def JwtAlgorithm.isAsymmetric : JwtAlgorithm → Bool
  | .hs256 => false
  | .rs256 | .edDsa => true

/-- `JwtKeySource`. -/
inductive JwtKeySource
  | hs256 (secret : String) (keyId : Option String)
  | localJwks (json : String)
  | publicKeyPem (algorithm : JwtAlgorithm) (keyId publicKeyPem : String)
  | remoteJwks (url : String)
  deriving DecidableEq

/-- `JwtConfig`. -/
structure JwtConfig where
  issuer : String
  audience : String
  keyId : Option String
  keySource : JwtKeySource
  legacySecretPresent : Bool
  jwksUrl : Option String
  deriving DecidableEq

/-- `ChainConfig`. -/
structure ChainConfig where
  chainId : ℕ
  tokenAddress : EvmAddress
  tokenDecimals : ℕ
  tokenSymbol : String
  treasuryAddress : EvmAddress
  problemFundsAddress : EvmAddress
  rpcHttpUrls : List String
  startBlock : ℕ
  minConfirmations : ℕ
  allowFullHistoryReplay : Bool
  deriving DecidableEq

/-- `TransferLogConfig`, with its defaults. -/
structure TransferLogConfig where
  pollIntervalMs : ℕ := 5000
  batchSizeBlocks : ℕ := 100
  maxBatchSizeBlocks : ℕ := 1000
  sparseHeaders : Bool := false
  deriving DecidableEq

/-- `CollectionMethod`. -/
inductive CollectionMethod
  | auto
  | standard
  | eip3009
  | polygonMetaTx
  | eip2612
  deriving DecidableEq

/-- `is_gasless`. -/
def CollectionMethod.isGasless : CollectionMethod → Bool
  | .eip3009 | .polygonMetaTx | .eip2612 => true
  | .auto | .standard => false

/-- `CollectionMethod::parse`. -/
def CollectionMethod.parse (value : String) : Except String CollectionMethod :=
  let normalized := hyphensReplaced (toAsciiLowercase (trimText value))
  if normalized ∈ ["auto", "default", "optimal"] then .ok .auto
  else if normalized ∈ ["standard", "direct", "erc20"] then .ok .standard
  else if normalized ∈ ["eip3009", "eip_3009", "usdc"] then .ok .eip3009
  else if normalized ∈ ["polygon_meta_tx", "polygon", "meta_tx", "pos_meta_tx"] then
    .ok .polygonMetaTx
  else if normalized ∈ ["eip2612", "eip_2612", "permit"] then .ok .eip2612
  else .error ("expected one of auto, standard, eip3009, polygon_meta_tx, eip2612; got '"
    ++ value ++ "'")

/-- `CollectionConfig`, with its defaults. -/
structure CollectionConfig where
  gasLimit : ℕ := 150000
  maxFeePerGasWei : RawAmount := 0
  maxPriorityFeePerGasWei : RawAmount := 0
  method : CollectionMethod := .auto
  relayerKeyRef : Option String := none
  relayerDerivationPath : String := "m/44'/60'/0'/0/0"
  tokenName : Option String := none
  tokenVersion : Option String := none
  deriving DecidableEq

/-- `CollectorConfig`, with its default, in seconds. -/
structure CollectorConfig where
  replacementStuckAfter : ℕ := 30 * 60
  deriving DecidableEq

/-- `SignerMode`. -/
inductive SignerMode
  | external
  | kms
  | hsm
  | local
  | fake
  deriving DecidableEq

/-- `SignerMode::parse`. -/
def SignerMode.parse (value : String) : Except ConfigError SignerMode :=
  let normalized := hyphensReplaced (toAsciiLowercase (trimText value))
  if normalized ∈ ["external", "remote"] then .ok .external
  else if normalized ∈ ["kms", "aws_kms", "gcp_kms", "azure_kms"] then .ok .kms
  else if normalized = "hsm" then .ok .hsm
  else if normalized = "local" then .ok .local
  else if normalized ∈ ["fake", "test_fake"] then .ok .fake
  else .error (.invalidValue "SIGNER_MODE" value
    "expected one of external, kms, hsm, local, fake")

/-- `is_local_or_fake`. -/
def SignerMode.isLocalOrFake : SignerMode → Bool
  | .local | .fake => true
  | .external | .kms | .hsm => false

/-- `SignerConfig`; the timeout in seconds. -/
structure SignerConfig where
  mode : SignerMode
  keyRef : String
  mnemonic : Option String
  allowLocalSigner : Bool
  secretMaterialPresent : Bool
  remoteEndpoint : Option String
  remoteRequestTimeout : ℕ
  remoteBearerToken : Option String
  allowInsecureRemoteSigner : Bool
  deriving DecidableEq

/-- `TokenInstanceConfig`. -/
structure TokenInstanceConfig where
  chain : ChainConfig
  collection : CollectionConfig
  transferLog : TransferLogConfig
  collector : CollectorConfig
  deriving DecidableEq

/-- **`AppConfig`.** -/
structure AppConfig where
  profile : AppProfile
  runtime : RuntimeConfig
  bindAddr : SocketAddr
  databaseUrl : String
  kvdb : KvdbConfig
  jwt : JwtConfig
  chain : ChainConfig
  transferLog : TransferLogConfig
  collection : CollectionConfig
  collector : CollectorConfig
  signer : SignerConfig
  tokens : List TokenInstanceConfig
  deriving DecidableEq

/-! ## The file -/

/-- `ServerYamlConfig`. -/
structure ServerYamlConfig where
  bindAddr : Option String := none
  profile : Option String := none
  role : Option String := none
  deriving DecidableEq

/-- `SignerYamlConfig`. -/
structure SignerYamlConfig where
  mode : String
  keyRef : Option String := none
  mnemonic : Option String := none
  allowLocalSigner : Option Bool := none
  endpoint : Option String := none
  bearerToken : Option String := none
  allowInsecureRemoteSigner : Option Bool := none
  relayerBaseDerivationPath : Option String := none
  deriving DecidableEq

/-- `AuthYamlConfig`. -/
structure AuthYamlConfig where
  jwksUrl : Option String := none
  secret : Option String := none
  issuer : Option String := none
  audience : Option String := none
  keyId : Option String := none
  publicKeyPem : Option String := none
  algorithm : Option String := none
  deriving DecidableEq

/-- `TokenYamlConfig`. -/
structure TokenYamlConfig where
  chainId : ℕ
  tokenAddress : String
  symbol : Option String := none
  decimals : Option ℕ := none
  treasuryAddress : String
  problemFundsAddress : Option String := none
  startBlock : Option ℕ := none
  minConfirmations : Option ℕ := none
  rpcUrls : List String
  collectionMethod : Option String := none
  relayerKeyRef : Option String := none
  relayerDerivationPath : Option String := none
  tokenName : Option String := none
  tokenVersion : Option String := none
  gasLimit : Option ℕ := none
  deriving DecidableEq

/-- **`MultiTokenConfigFile`.** -/
structure MultiTokenConfigFile where
  version : Option String := none
  server : Option ServerYamlConfig := none
  databaseUrl : Option String := none
  signer : SignerYamlConfig
  auth : Option AuthYamlConfig := none
  tokens : List TokenYamlConfig
  deriving DecidableEq

/-- **What the libraries read from text.** -/
structure ConfigLibraries where
  parseSocketAddr : String → Except String SocketAddr
  yamlFromStr : String → Except String MultiTokenConfigFile
  jsonFromStr : String → Option JsonValue

/-- A value that is parsed where it is given, and else has a default. -/
def parseOr {ε α : Type} (value : Option String) (parse : String → Except ε α) (default : α) :
    Except ε α :=
  match value with
  | some value => parse value
  | none => .ok default

/-! ## Environments -/

/-- **The environment of a process**: its variables, by name. -/
abbrev Environment := List (String × String)

/-- `env::var`. -/
def envVar (env : Environment) (name : String) : Option String :=
  (env.find? (fun entry => decide (entry.1 = name))).map Prod.snd

/-- `env::var(..).ok().filter(|s| !s.trim().is_empty())`. -/
def envNonBlank (env : Environment) (name : String) : Option String :=
  (envVar env name).filter (fun value => !blank value)

/-- `.as_deref().map(str::trim).filter(|s| !s.is_empty())`. -/
def trimmedNonBlank (value : Option String) : Option String :=
  (value.map trimText).filter (fun value => decide (value ≠ ""))

/-- The characters up to a closing brace, and those behind it. -/
def splitBrace : List Char → Option (List Char × List Char)
  | [] => none
  | c :: rest =>
    if c = '\x7d' then some ([], rest)
    else (splitBrace rest).map (fun split => (c :: split.1, split.2))

/-- `split_once(":-")`. -/
def splitDefault : List Char → Option (List Char × List Char)
  | ':' :: '-' :: rest => some ([], rest)
  | c :: rest => (splitDefault rest).map (fun split => (c :: split.1, split.2))
  | [] => none

/-- The value of what stands between the braces. -/
def expandExpr (env : Environment) (expr : List Char) : List Char :=
  match splitDefault expr with
  | some (name, default) =>
    ((envVar env (trimText (String.ofList name))).map String.toList).getD default
  | none => ((envVar env (trimText (String.ofList expr))).map String.toList).getD []

/-- The loop of `expand_env_vars`; each turn takes a character at least, so that
the length of the text is enough fuel. -/
def expandLoop (env : Environment) : ℕ → List Char → List Char
  | 0, _ => []
  | _ + 1, [] => []
  | fuel + 1, '$' :: '\x7b' :: rest =>
    match splitBrace rest with
    | some (expr, rest) => expandExpr env expr ++ expandLoop env fuel rest
    | none => '$' :: '\x7b' :: rest
  | fuel + 1, c :: rest => c :: expandLoop env fuel rest

/-- **`expand_env_vars`.** -/
def expandEnvVars (env : Environment) (raw : String) : String :=
  String.ofList (expandLoop env (raw.toList.length + 1) raw.toList)

/-! ## The YAML loader -/

/-- The database of `from_yaml_str`. -/
def yamlDatabaseUrl (env : Environment) (file : MultiTokenConfigFile) :
    Except ConfigError String :=
  orError ((trimmedNonBlank file.databaseUrl).or (envNonBlank env "DATABASE_URL"))
    (.missing "DATABASE_URL")

/-- The key source of `from_yaml_str`. -/
def yamlKeySource (env : Environment) (auth : AuthYamlConfig) (keyId jwksUrl : Option String) :
    Except ConfigError JwtKeySource :=
  let secret := (trimmedNonBlank auth.secret).or (envNonBlank env "JWT_SECRET")
  let publicKeyPem :=
    (trimmedNonBlank auth.publicKeyPem).or (envNonBlank env "JWT_PUBLIC_KEY_PEM")
  match jwksUrl, publicKeyPem, secret with
  | some url, _, _ => .ok (.remoteJwks url)
  | none, some pem, _ => do
    let algorithm ← parseOr (auth.algorithm.or (envVar env "JWT_ALGORITHM")) JwtAlgorithm.parse
      .rs256
    pure (.publicKeyPem algorithm (keyId.getD "default") pem)
  | none, none, some secret => .ok (.hs256 secret keyId)
  | none, none, none =>
    .ok (.hs256 "development-secret-with-sufficient-entropy-for-testing" none)

/-- The authentication of `from_yaml_str`. -/
def yamlJwt (env : Environment) (auth : AuthYamlConfig) : Except ConfigError JwtConfig := do
  let keyId := auth.keyId.or (envVar env "JWT_KEY_ID")
  let jwksUrl := auth.jwksUrl.or (envVar env "JWT_JWKS_URL")
  let secret := (trimmedNonBlank auth.secret).or (envNonBlank env "JWT_SECRET")
  let keySource ← yamlKeySource env auth keyId jwksUrl
  pure {
    issuer := (auth.issuer.or (envVar env "JWT_ISSUER")).getD "pay3-issuer"
    audience := (auth.audience.or (envVar env "JWT_AUDIENCE")).getD "pay3-api"
    keyId, keySource
    legacySecretPresent := secret.isSome || (envVar env "JWT_SECRET").isSome
    jwksUrl }

/-- **The signer of `from_yaml_str`.** -/
def yamlSigner (env : Environment) (signer : SignerYamlConfig) :
    Except ConfigError SignerConfig := do
  let mode ← SignerMode.parse signer.mode
  let mnemonic := (trimmedNonBlank signer.mnemonic).or (envNonBlank env "SIGNER_MNEMONIC")
  let bearerToken := ((envVar env "SIGNER_REMOTE_BEARER_TOKEN").or
    (envVar env "SIGNER_BEARER_TOKEN")).filter (fun value => !blank value)
  pure {
    mode, mnemonic
    keyRef := signer.keyRef.getD "default"
    allowLocalSigner := (signer.allowLocalSigner.or
      ((envVar env "ALLOW_LOCAL_SIGNER").bind parseBool)).getD false
    secretMaterialPresent := mnemonic.isSome || (envVar env "SIGNER_MNEMONIC").isSome
      || (envVar env "LOCAL_SIGNER_MNEMONIC").isSome || (envVar env "SIGNER_PRIVATE_KEY").isSome
    remoteEndpoint := signer.endpoint
    remoteRequestTimeout := 15
    remoteBearerToken := (trimmedNonBlank signer.bearerToken).or bearerToken
    allowInsecureRemoteSigner := (signer.allowInsecureRemoteSigner.or
      ((envVar env "ALLOW_INSECURE_REMOTE_SIGNER").bind parseBool)).getD false }

/-- An address of the file. -/
def yamlAddress (key value : String) : Except ConfigError EvmAddress :=
  (parseHexAddress value).mapError (fun error => .invalidValue key value error.display)

/-- **A token of `from_yaml_str`**, the one at `idx`. -/
def yamlToken (signerKeyRef relayerBasePath : String) (idx : ℕ) (t : TokenYamlConfig) :
    Except ConfigError TokenInstanceConfig := do
  let tokenAddress ← yamlAddress "token_address" t.tokenAddress
  let treasuryAddress ← yamlAddress "treasury_address" t.treasuryAddress
  let problemFundsAddress ← parseOr t.problemFundsAddress (yamlAddress "problem_funds_address")
    treasuryAddress
  let method ← parseOr t.collectionMethod (fun value =>
    (CollectionMethod.parse value).mapError (.invalidValue "collection_method" value)) .auto
  pure {
    chain := {
      chainId := t.chainId
      tokenAddress
      tokenDecimals := t.decimals.getD 18
      tokenSymbol := t.symbol.getD "TOKEN"
      treasuryAddress, problemFundsAddress
      rpcHttpUrls := t.rpcUrls
      startBlock := t.startBlock.getD 1
      minConfirmations := t.minConfirmations.getD 12
      allowFullHistoryReplay := false }
    collection := {
      gasLimit := t.gasLimit.getD 150000
      method
      relayerKeyRef := t.relayerKeyRef.or (some signerKeyRef)
      relayerDerivationPath :=
        t.relayerDerivationPath.getD (relayerBasePath ++ "/" ++ toString idx)
      tokenName := t.tokenName
      tokenVersion := t.tokenVersion }
    transferLog := {}
    collector := {} }

/-- The tokens of `from_yaml_str`, from the one at `idx` on. -/
def yamlTokens (signerKeyRef relayerBasePath : String) :
    ℕ → List TokenYamlConfig → Except ConfigError (List TokenInstanceConfig)
  | _, [] => .ok []
  | idx, t :: ts => do
    let token ← yamlToken signerKeyRef relayerBasePath idx t
    let tokens ← yamlTokens signerKeyRef relayerBasePath (idx + 1) ts
    pure (token :: tokens)

/-- `from_yaml_str`, once the file is read. -/
def fromFile (libs : ConfigLibraries) (env : Environment) (file : MultiTokenConfigFile) :
    Except ConfigError AppConfig := do
  let profile ← parseOr (file.server.bind ServerYamlConfig.profile) AppProfile.parse .development
  let role ← parseOr (file.server.bind ServerYamlConfig.role) RuntimeRole.parse .all
  let bindStr := (file.server.bind ServerYamlConfig.bindAddr).getD "0.0.0.0:8080"
  let bindAddr ← (libs.parseSocketAddr bindStr).mapError
    (.invalidValue "server.bind_addr" bindStr)
  let databaseUrl ← yamlDatabaseUrl env file
  let jwt ← yamlJwt env (file.auth.getD {})
  let signer ← yamlSigner env file.signer
  match file.tokens with
  | [] => .error (.validation ["at least one token must be configured in tokens list"])
  | t :: ts => do
    let base := file.signer.relayerBaseDerivationPath.getD "m/44'/60'/99'/0"
    let first ← yamlToken signer.keyRef base 0 t
    let rest ← yamlTokens signer.keyRef base 1 ts
    pure {
      profile, bindAddr, databaseUrl, jwt, signer
      runtime := ⟨role, ⟨true, true, true, true, true, true, true⟩⟩
      kvdb := ⟨"", none⟩
      chain := first.chain
      transferLog := first.transferLog
      collection := first.collection
      collector := first.collector
      tokens := first :: rest }

/-- **`AppConfig::from_yaml_str`.** -/
def fromYamlStr (libs : ConfigLibraries) (env : Environment) (yaml : String) :
    Except ConfigError AppConfig := do
  let file ← (libs.yamlFromStr (expandEnvVars env yaml)).mapError ConfigError.yaml
  fromFile libs env file

/-! ## The environment loader -/

/-- **`EnvPairs::new`**: names and values are trimmed, and the last value of a
trimmed name is kept. -/
def EnvPairs.new (pairs : Environment) : Environment :=
  (pairs.map (fun entry => (trimText entry.1, trimText entry.2))).reverse

section EnvPairs

variable (values : Environment)

/-- `EnvPairs::optional`: the first name that is there decides, also when its
value is blank. -/
def optional (keys : List String) : Option String :=
  (keys.findSome? (envVar values)).filter (fun value => !blank value)

/-- `EnvPairs::has_any`. -/
def hasAny (keys : List String) : Bool := keys.any (fun key => (envNonBlank values key).isSome)

/-- `EnvPairs::required`. -/
def required (keys : List String) : Except ConfigError String :=
  orError (optional values keys) (.missing (keys.headD ""))

/-- A value that is read, or the default where there is none. -/
def parseOptional {α : Type} (keys : List String) (parse : String → Option α) (expected : String)
    (default : α) : Except ConfigError α :=
  match optional values keys with
  | none => .ok default
  | some value => orError (parse value) (.invalidValue (keys.headD "") value expected)

/-- A value that is read, and has to be there. -/
def parseRequired {α : Type} (keys : List String) (parse : String → Option α)
    (expected : String) : Except ConfigError α := do
  let value ← required values keys
  orError (parse value) (.invalidValue (keys.headD "") value expected)

/-- `parse_required_u64`. -/
def parseRequiredU64 (keys : List String) : Except ConfigError ℕ :=
  parseRequired values keys (parseUnsigned (2 ^ 64)) "expected unsigned integer"

/-- `parse_optional_u64`. -/
def parseOptionalU64 (keys : List String) (default : ℕ) : Except ConfigError ℕ :=
  parseOptional values keys (parseUnsigned (2 ^ 64)) "expected unsigned integer" default

/-- `parse_optional_u64_value`. -/
def parseOptionalU64Value (keys : List String) : Except ConfigError (Option ℕ) :=
  parseOptional values keys (fun value => (parseUnsigned (2 ^ 64) value).map some)
    "expected unsigned integer" none

/-- `parse_required_u8`. -/
def parseRequiredU8 (keys : List String) : Except ConfigError ℕ :=
  parseRequired values keys (parseUnsigned (2 ^ 8)) "expected unsigned 8-bit integer"

/-- `parse_optional_raw_amount`. -/
def parseOptionalRawAmount (keys : List String) (default : RawAmount) :
    Except ConfigError RawAmount :=
  parseOptional values keys parseDecStr "expected raw amount integer" default

/-- `parse_optional_duration_secs`. -/
def parseOptionalDurationSecs (keys : List String) (default : ℕ) : Except ConfigError ℕ :=
  parseOptional values keys (parseUnsigned (2 ^ 64)) "expected unsigned integer seconds" default

/-- `parse_optional_collection_method`, whose reason is the method's own. -/
def parseOptionalCollectionMethod (keys : List String) (default : CollectionMethod) :
    Except ConfigError CollectionMethod :=
  match optional values keys with
  | none => .ok default
  | some value => (CollectionMethod.parse value).mapError (.invalidValue (keys.headD "") value)

/-- `parse_required_address`. -/
def parseRequiredAddress (keys : List String) : Except ConfigError EvmAddress :=
  parseRequired values keys (fun value => (parseHexAddress value).toOption)
    "expected 0x-prefixed EVM address"

/-- `parse_required_list`. -/
def parseRequiredList (keys : List String) : Except ConfigError (List String) :=
  parseRequired values keys (fun value =>
    let items := ((value.toList.splitOn ',').map (fun item => trimText (String.ofList item))).filter
      (fun item => decide (item ≠ ""))
    if items = [] then none else some items) "expected comma-separated list"

/-- `parse_optional_bool`. -/
def parseOptionalBool (keys : List String) (default : Bool) : Except ConfigError Bool :=
  parseOptional values keys (fun value =>
    let normalized := toAsciiLowercase (trimText value)
    if normalized ∈ ["1", "true", "yes", "y", "on"] then some true
    else if normalized ∈ ["0", "false", "no", "n", "off"] then some false
    else none) "expected boolean" default

/-- `parse_jwt_key_source`. -/
def parseJwtKeySource : Except ConfigError JwtKeySource :=
  match optional values ["JWT_JWKS_JSON", "JWT_LOCAL_JWKS_JSON"],
      optional values ["JWT_PUBLIC_KEY_PEM", "JWT_PUBLIC_KEY"],
      optional values ["JWT_JWKS_URL"] with
  | some json, _, _ => .ok (.localJwks json)
  | none, some publicKeyPem, _ => do
    let algorithm ← required values ["JWT_ALGORITHM", "JWT_ALG"] >>= JwtAlgorithm.parse
    ensure algorithm.isAsymmetric (.invalidValue "JWT_ALGORITHM"
      ((optional values ["JWT_ALGORITHM", "JWT_ALG"]).getD "")
      "PEM public keys require RS256 or EdDSA")
    let keyId ← required values ["JWT_KEY_ID", "JWT_KID"]
    ensure (!blank keyId) (.invalidValue "JWT_KEY_ID" keyId
      "PEM public keys require a non-empty key id")
    pure (.publicKeyPem algorithm keyId publicKeyPem)
  | none, none, some url => .ok (.remoteJwks url)
  | none, none, none => do
    let secret ← required values ["JWT_SECRET"]
    pure (.hs256 secret (optional values ["JWT_KEY_ID", "JWT_KID"]))

/-- The runtime of `from_pairs`. -/
def pairsRuntime : Except ConfigError RuntimeConfig := do
  let role ← RuntimeRole.parse
    ((optional values ["RUN_ROLE", "PAY3_RUN_ROLE", "APP_ROLE"]).getD "all")
  let transferLogIngestor ← parseOptionalBool values
    ["ENABLE_TRANSFER_LOG_INGESTOR", "WORKER_TRANSFER_LOG_INGESTOR"] true
  let transferLogRetention ← parseOptionalBool values
    ["ENABLE_TRANSFER_LOG_RETENTION", "WORKER_TRANSFER_LOG_RETENTION"] true
  let runtimeReadiness ← parseOptionalBool values
    ["ENABLE_RUNTIME_READINESS", "WORKER_RUNTIME_READINESS"] true
  let orderExpiry ← parseOptionalBool values
    ["ENABLE_ORDER_EXPIRY_WORKER", "WORKER_ORDER_EXPIRY"] true
  let paymentScanner ← parseOptionalBool values
    ["ENABLE_PAYMENT_SCANNER", "WORKER_PAYMENT_SCANNER"] true
  let collectionEnqueuer ← parseOptionalBool values
    ["ENABLE_COLLECTION_ENQUEUER", "WORKER_COLLECTION_ENQUEUER"] true
  let collectionCollector ← parseOptionalBool values
    ["ENABLE_COLLECTION_COLLECTOR", "WORKER_COLLECTION_COLLECTOR"] true
  pure ⟨role, ⟨transferLogIngestor, transferLogRetention, runtimeReadiness, orderExpiry,
    paymentScanner, collectionEnqueuer, collectionCollector⟩⟩

/-- The authentication of `from_pairs`. -/
def pairsJwt : Except ConfigError JwtConfig := do
  let issuer ← required values ["JWT_ISSUER"]
  let audience ← required values ["JWT_AUDIENCE"]
  let keySource ← parseJwtKeySource values
  pure {
    issuer, audience, keySource
    keyId := optional values ["JWT_KEY_ID", "JWT_KID"]
    legacySecretPresent := (optional values ["JWT_SECRET"]).isSome
    jwksUrl := optional values ["JWT_JWKS_URL"] }

/-- The chain of `from_pairs`. -/
def pairsChain : Except ConfigError ChainConfig := do
  let chainId ← parseRequiredU64 values ["CHAIN_ID"]
  let tokenAddress ← parseRequiredAddress values ["TOKEN_ADDRESS"]
  let tokenDecimals ← parseRequiredU8 values ["TOKEN_DECIMALS"]
  let treasuryAddress ← parseRequiredAddress values ["TREASURY_ADDRESS"]
  let problemFundsAddress ← parseRequiredAddress values ["PROBLEM_FUNDS_ADDRESS"]
  let rpcHttpUrls ← parseRequiredList values ["RPC_HTTP_URLS", "RPC_URLS"]
  let startBlock ← parseRequiredU64 values ["START_BLOCK", "SCAN_FROM_BLOCK"]
  let minConfirmations ← parseRequiredU64 values ["MIN_CONFIRMATIONS"]
  let allowFullHistoryReplay ← parseOptionalBool values ["ALLOW_FULL_HISTORY_REPLAY"] false
  pure {
    chainId, tokenAddress, tokenDecimals, treasuryAddress, problemFundsAddress, rpcHttpUrls
    startBlock, minConfirmations, allowFullHistoryReplay
    tokenSymbol := (optional values ["TOKEN_SYMBOL"]).getD "TOKEN" }

/-- The transfer log of `from_pairs`. -/
def pairsTransferLog : Except ConfigError TransferLogConfig := do
  let defaults : TransferLogConfig := {}
  let pollIntervalMs ← parseOptionalU64 values ["TRANSFER_LOG_POLL_INTERVAL_MS"]
    defaults.pollIntervalMs
  let batchSizeBlocks ← parseOptionalU64 values
    ["TRANSFER_LOG_BATCH_SIZE_BLOCKS", "SCAN_BATCH_SIZE"] defaults.batchSizeBlocks
  let maxBatchSizeBlocks ← parseOptionalU64 values ["TRANSFER_LOG_MAX_BATCH_SIZE_BLOCKS"]
    defaults.maxBatchSizeBlocks
  let sparseHeaders ← parseOptionalBool values ["TRANSFER_LOG_SPARSE_HEADERS"]
    defaults.sparseHeaders
  pure { pollIntervalMs, batchSizeBlocks, maxBatchSizeBlocks, sparseHeaders }

/-- **The collection of `from_pairs`**, with the relayer of its one token. -/
def pairsCollection : Except ConfigError CollectionConfig := do
  let defaults : CollectionConfig := {}
  let method ← parseOptionalCollectionMethod values ["COLLECTION_METHOD"] defaults.method
  let relayerKeyRef := optional values ["COLLECTION_RELAYER_KEY_REF"]
  ensure (!(method.isGasless && relayerKeyRef.isNone)) (.missing "COLLECTION_RELAYER_KEY_REF")
  let gasLimit ← parseOptionalU64 values ["COLLECTION_GAS_LIMIT"] defaults.gasLimit
  let maxFeePerGasWei ← parseOptionalRawAmount values ["COLLECTION_MAX_FEE_PER_GAS_WEI"]
    defaults.maxFeePerGasWei
  let maxPriorityFeePerGasWei ← parseOptionalRawAmount values
    ["COLLECTION_MAX_PRIORITY_FEE_PER_GAS_WEI"] defaults.maxPriorityFeePerGasWei
  pure {
    gasLimit, maxFeePerGasWei, maxPriorityFeePerGasWei, method, relayerKeyRef
    relayerDerivationPath := (optional values ["COLLECTION_RELAYER_DERIVATION_PATH"]).getD
      defaults.relayerDerivationPath
    tokenName := optional values ["COLLECTION_TOKEN_NAME"]
    tokenVersion := optional values ["COLLECTION_TOKEN_VERSION"] }

/-- **`LOCAL_SIGNER_SECRET_KEYS`.** -/
def localSignerSecretKeys : List String :=
  ["SIGNER_MNEMONIC", "LOCAL_SIGNER_MNEMONIC", "SIGNER_SERVICE_MNEMONIC", "SIGNER_XPRV",
    "LOCAL_SIGNER_XPRV", "SIGNER_SERVICE_XPRV", "SIGNER_PRIVATE_KEY", "LOCAL_SIGNER_PRIVATE_KEY",
    "DEPLOYER_PRIVATE_KEY"]

/-- **The signer of `from_pairs`.** -/
def pairsSigner : Except ConfigError SignerConfig := do
  let mode ← required values ["SIGNER_MODE", "SIGNER_PROVIDER"] >>= SignerMode.parse
  let keyRef ← required values ["SIGNER_KEY_REF"]
  let allowLocalSigner ← parseOptionalBool values ["ALLOW_LOCAL_SIGNER"] false
  let remoteRequestTimeout ← parseOptionalDurationSecs values
    ["SIGNER_REMOTE_REQUEST_TIMEOUT_SECS", "SIGNER_REQUEST_TIMEOUT_SECS",
      "REMOTE_SIGNER_REQUEST_TIMEOUT_SECS"] 15
  let allowInsecureRemoteSigner ← parseOptionalBool values
    ["ALLOW_INSECURE_REMOTE_SIGNER", "SIGNER_ALLOW_INSECURE_REMOTE_ENDPOINT"] false
  pure {
    mode, keyRef, allowLocalSigner, remoteRequestTimeout, allowInsecureRemoteSigner
    mnemonic := optional values
      ["SIGNER_MNEMONIC", "LOCAL_SIGNER_MNEMONIC", "SIGNER_SERVICE_MNEMONIC"]
    secretMaterialPresent := hasAny values localSignerSecretKeys
    remoteEndpoint := optional values
      ["SIGNER_REMOTE_ENDPOINT", "SIGNER_ENDPOINT", "REMOTE_SIGNER_ENDPOINT"]
    remoteBearerToken := optional values
      ["SIGNER_REMOTE_BEARER_TOKEN", "SIGNER_BEARER_TOKEN", "REMOTE_SIGNER_BEARER_TOKEN"] }

end EnvPairs

/-- **`AppConfig::from_pairs`.** -/
def fromPairs (libs : ConfigLibraries) (pairs : Environment) : Except ConfigError AppConfig := do
  let values := EnvPairs.new pairs
  let profile ← parseOr (optional values ["APP_PROFILE", "PAY3_PROFILE", "PROFILE"])
    AppProfile.parse .development
  let bind := optional values ["APP_BIND", "HTTP_BIND_ADDR", "BIND_ADDR"]
  let bindAddr ← (libs.parseSocketAddr (bind.getD "127.0.0.1:8080")).mapError
    (fun _ => .invalidValue "APP_BIND" (bind.getD "") "expected host:port socket address")
  let runtime ← pairsRuntime values
  let databaseUrl ← required values ["DATABASE_URL"]
  let manualRebuildFloorBlock ← parseOptionalU64Value values
    ["KVDB_MANUAL_REBUILD_FLOOR_BLOCK", "KVDB_REBUILD_FLOOR_BLOCK"]
  let jwt ← pairsJwt values
  let chain ← pairsChain values
  let transferLog ← pairsTransferLog values
  let collection ← pairsCollection values
  let replacementStuckAfter ← parseOptionalDurationSecs values
    ["COLLECTION_REPLACEMENT_STUCK_AFTER_SECS"] (30 * 60)
  let signer ← pairsSigner values
  pure {
    profile, runtime, bindAddr, databaseUrl, jwt, chain, transferLog, collection, signer
    kvdb := ⟨(optional values ["KVDB_PATH", "REDB_PATH"]).getD "", manualRebuildFloorBlock⟩
    collector := ⟨replacementStuckAfter⟩
    tokens := [⟨chain, collection, transferLog, ⟨replacementStuckAfter⟩⟩] }

/-! ## Which configurations start -/

/-- Whether there is nothing but blanks. -/
def noneOrBlank (value : Option String) : Bool := blank (value.getD "")

/-- The checks of the signer. -/
def signerErrors (production : Bool) (signer : SignerConfig) : List String :=
  match signer.mode with
  | .fake => []
  | .local =>
    (if signer.allowLocalSigner then []
      else ["SIGNER_MODE=local requires explicit ALLOW_LOCAL_SIGNER=true"])
      ++ (if noneOrBlank signer.mnemonic then ["SIGNER_MODE=local requires SIGNER_MNEMONIC"]
        else [])
  | .external | .kms | .hsm =>
    (if noneOrBlank signer.remoteEndpoint then
        ["external/kms/hsm signer modes require SIGNER_REMOTE_ENDPOINT"]
      else if production && !signer.allowInsecureRemoteSigner
          && !(signer.remoteEndpoint.elim false isHttpsUrl) then
        ["production remote signer endpoint must use https unless "
          ++ "ALLOW_INSECURE_REMOTE_SIGNER=true"]
      else [])
      ++ (if production && noneOrBlank signer.remoteBearerToken then
        ["production remote signer requires SIGNER_REMOTE_BEARER_TOKEN"] else [])

/-- How the errors of the token at `idx` begin. -/
def tokenPrefix (count idx : ℕ) : String :=
  if count > 1 then "token[" ++ toString idx ++ "]: " else ""

/-- The checks of one token, the duplicate check apart. -/
def tokenErrors (lead : String) (token : TokenInstanceConfig) : List String :=
  (if token.collection.maxPriorityFeePerGasWei > token.collection.maxFeePerGasWei then
      [lead ++ "COLLECTION_MAX_PRIORITY_FEE_PER_GAS_WEI must be <= "
        ++ "COLLECTION_MAX_FEE_PER_GAS_WEI"] else [])
    ++ (if token.chain.problemFundsAddress = 0 then
      [lead ++ "PROBLEM_FUNDS_ADDRESS must not be zero"] else [])
    ++ (if token.chain.problemFundsAddress = token.chain.treasuryAddress then
      [lead ++ "PROBLEM_FUNDS_ADDRESS must differ from TREASURY_ADDRESS"] else [])

/-- What no two tokens may share. -/
def TokenInstanceConfig.key (token : TokenInstanceConfig) : ℕ × EvmAddress :=
  (token.chain.chainId, token.chain.tokenAddress)

/-- **The loop over the tokens**, from the one at `idx` on, with the keys seen
so far. -/
def tokensErrors (count : ℕ) : ℕ → List (ℕ × EvmAddress) → List TokenInstanceConfig → List String
  | _, _, [] => []
  | idx, seen, token :: tokens =>
    (if token.key ∈ seen then
        ["duplicate token instance on chain " ++ toString token.chain.chainId ++ " with address "
          ++ token.chain.tokenAddress.display] else [])
      ++ tokenErrors (tokenPrefix count idx) token
      ++ tokensErrors count (idx + 1) (token.key :: seen) tokens

/-- The production checks of one token. -/
def productionTokenErrors (lead : String) (token : TokenInstanceConfig) : List String :=
  (if (token.chain.rpcHttpUrls.map trimText).dedup.length < 2 then
      [lead ++ "production profile requires at least two distinct RPC providers"] else [])
    ++ (if token.chain.startBlock = 0 ∧ !token.chain.allowFullHistoryReplay then
      [lead ++ "production profile forbids START_BLOCK=0 unless ALLOW_FULL_HISTORY_REPLAY=true"]
      else [])

/-- A text field of a key. -/
def jwkField (name : String) (key : JsonValue) : String :=
  ((key.get name).bind JsonValue.asString).getD ""

/-- The loop of `validate_production_jwks_json`, with the key ids seen so far. -/
def jwksErrors : List String → List JsonValue → List String
  | _, [] => []
  | keyIds, key :: keys =>
    let kid := trimText (jwkField "kid" key)
    let alg := jwkField "alg" key
    let kty := jwkField "kty" key
    (if kid = "" then ["production JWT_JWKS_JSON keys require kid"]
      else if kid ∈ keyIds then ["production JWT_JWKS_JSON has duplicate kid " ++ kid]
      else [])
      ++ (if alg = "RS256" ∧ kty = "RSA" ∨ alg = "EdDSA" ∧ kty = "OKP" then []
        else if alg = "RS256" then ["production JWT_JWKS_JSON RS256 keys require kty=RSA"]
        else if alg = "EdDSA" then ["production JWT_JWKS_JSON EdDSA keys require kty=OKP"]
        else ["production JWT_JWKS_JSON keys require alg RS256 or EdDSA"])
      ++ jwksErrors (if kid = "" then keyIds else kid :: keyIds) keys

/-- `validate_production_jwks_json`. -/
def validateProductionJwksJson (libs : ConfigLibraries) (json : String) : List String :=
  match libs.jsonFromStr json with
  | none => ["production JWT_JWKS_JSON must be valid JWKS JSON"]
  | some value => match (value.get "keys").bind JsonValue.asArray with
    | none => ["production JWT_JWKS_JSON must contain a keys array"]
    | some [] => ["production JWT_JWKS_JSON must contain at least one key"]
    | some keys => jwksErrors [] keys

/-- The production checks of the key source. -/
def keySourceErrors (libs : ConfigLibraries) : JwtKeySource → List String
  | .hs256 _ _ => ["production profile forbids HS256; configure RS256 or EdDSA public keys"]
  | .localJwks json => validateProductionJwksJson libs json
  | .publicKeyPem algorithm keyId _ =>
    (if algorithm.isAsymmetric then [] else ["production JWT public key requires RS256 or EdDSA"])
      ++ (if blank keyId then ["production JWT public key requires JWT_KEY_ID"] else [])
  | .remoteJwks url =>
    if isHttpsUrl url then [] else ["production profile requires HTTPS JWT_JWKS_URL"]

/-- **The checks of the production profile.** -/
def productionErrors (libs : ConfigLibraries) (config : AppConfig) : List String :=
  (if config.signer.mode.isLocalOrFake then
      ["production profile requires an external/KMS/HSM signer"] else [])
    ++ (if config.signer.secretMaterialPresent then
      ["production profile forbids local signer mnemonic/private key material"] else [])
    ++ (config.tokens.zipIdx.flatMap (fun token =>
      productionTokenErrors (tokenPrefix config.tokens.length token.2) token.1))
    ++ (if config.jwt.legacySecretPresent then
      ["production profile forbids JWT_SECRET; configure JWT_JWKS_JSON or JWT_PUBLIC_KEY_PEM"]
      else [])
    ++ keySourceErrors libs config.jwt.keySource

/-- The errors of `validate_profile`. -/
def profileErrors (libs : ConfigLibraries) (config : AppConfig) : List String :=
  signerErrors (decide (config.profile = .production)) config.signer
    ++ (if config.runtime.workersEnabled && !config.runtime.workers.anyWorkerEnabled then
      ["worker runtime role has no enabled workers"] else [])
    ++ (if config.tokens = [] then ["at least one token must be configured"] else [])
    ++ tokensErrors config.tokens.length 0 [] config.tokens
    ++ (if config.profile = .production then productionErrors libs config else [])

/-- **`AppConfig::validate_profile`.** -/
def validateProfile (libs : ConfigLibraries) (config : AppConfig) : Except ConfigError Unit :=
  let errors := profileErrors libs config
  if errors = [] then .ok () else .error (.validation errors)

/-! ## What is known of an accepted configuration -/

variable {libs : ConfigLibraries} {config : AppConfig}

theorem validateProfile_eq_ok :
    validateProfile libs config = .ok () ↔ profileErrors libs config = [] := by
  show (if profileErrors libs config = [] then (.ok () : Except ConfigError Unit)
    else .error (.validation (profileErrors libs config))) = .ok () ↔ _
  split_ifs with h
  · exact ⟨fun _ => h, fun _ => rfl⟩
  · exact ⟨nofun, fun h' => absurd h' h⟩

/-- A key that was seen makes the loop over the tokens fail. -/
theorem key_notMem_of_tokensErrors {count : ℕ} {tokens : List TokenInstanceConfig} {idx : ℕ}
    {seen : List (ℕ × EvmAddress)} (h : tokensErrors count idx seen tokens = []) :
    (tokens.map TokenInstanceConfig.key).Nodup
      ∧ ∀ token ∈ tokens, token.key ∉ seen := by
  induction tokens generalizing idx seen with
  | nil => exact ⟨List.nodup_nil, fun _ htoken => (List.not_mem_nil htoken).elim⟩
  | cons token tokens ih =>
    simp only [tokensErrors, List.append_eq_nil_iff] at h
    obtain ⟨⟨hduplicate, -⟩, hrest⟩ := h
    obtain ⟨hnodup, hseen⟩ := ih hrest
    have hfresh : token.key ∉ seen := fun hmem => by simp [if_pos hmem] at hduplicate
    refine ⟨List.nodup_cons.mpr ⟨fun hmem => ?_, hnodup⟩, ?_⟩
    · obtain ⟨token', hmem', hkey⟩ := List.mem_map.mp hmem
      exact hseen token' hmem' (hkey ▸ List.mem_cons_self)
    · intro token' hmem'
      obtain rfl | htail := List.mem_cons.mp hmem'
      · exact hfresh
      · exact fun hold => hseen token' htail (List.mem_cons_of_mem _ hold)

/-- **No two tokens of an accepted configuration have both the chain and the
address in common.** -/
theorem nodup_key_of_validateProfile (h : validateProfile libs config = .ok ()) :
    (config.tokens.map TokenInstanceConfig.key).Nodup := by
  have herrors := validateProfile_eq_ok.mp h
  simp only [profileErrors, List.append_eq_nil_iff] at herrors
  exact (key_notMem_of_tokensErrors herrors.1.2).1

/-! ## What is known of a loaded configuration -/

/-- Where the environment loader has the secrets of the signer from. -/
theorem pairsSigner_eq_ok {values : Environment} {signer : SignerConfig}
    (h : pairsSigner values = .ok signer) :
    signer.mnemonic
        = optional values ["SIGNER_MNEMONIC", "LOCAL_SIGNER_MNEMONIC", "SIGNER_SERVICE_MNEMONIC"]
      ∧ signer.secretMaterialPresent = hasAny values localSignerSecretKeys := by
  unfold pairsSigner at h
  obtain ⟨_, -, h⟩ := Except.bind_eq_ok.mp h
  obtain ⟨_, -, h⟩ := Except.bind_eq_ok.mp h
  obtain ⟨_, -, h⟩ := Except.bind_eq_ok.mp h
  obtain ⟨_, -, h⟩ := Except.bind_eq_ok.mp h
  obtain ⟨_, -, h⟩ := Except.bind_eq_ok.mp h
  rw [← Except.ok.inj h]
  exact ⟨rfl, rfl⟩

/-- **What the environment loader makes of an environment**: one token, and the
signer of `from_pairs`. -/
theorem fromPairs_eq_ok {env : Environment} (h : fromPairs libs env = .ok config) :
    pairsSigner (EnvPairs.new env) = .ok config.signer ∧ config.tokens.length = 1 := by
  unfold fromPairs at h
  obtain ⟨_, -, h⟩ := Except.bind_eq_ok.mp h
  obtain ⟨_, -, h⟩ := Except.bind_eq_ok.mp h
  obtain ⟨_, -, h⟩ := Except.bind_eq_ok.mp h
  obtain ⟨_, -, h⟩ := Except.bind_eq_ok.mp h
  obtain ⟨_, -, h⟩ := Except.bind_eq_ok.mp h
  obtain ⟨_, -, h⟩ := Except.bind_eq_ok.mp h
  obtain ⟨_, -, h⟩ := Except.bind_eq_ok.mp h
  obtain ⟨_, -, h⟩ := Except.bind_eq_ok.mp h
  obtain ⟨_, -, h⟩ := Except.bind_eq_ok.mp h
  obtain ⟨_, -, h⟩ := Except.bind_eq_ok.mp h
  obtain ⟨signer, hsigner, h⟩ := Except.bind_eq_ok.mp h
  rw [← Except.ok.inj h]
  exact ⟨hsigner, rfl⟩

/-- The file is read, and then loaded. -/
theorem fromYamlStr_eq_ok {env : Environment} {yaml : String} :
    fromYamlStr libs env yaml = .ok config
      ↔ ∃ file, libs.yamlFromStr (expandEnvVars env yaml) = .ok file
        ∧ fromFile libs env file = .ok config := by
  rw [fromYamlStr, Except.bind_eq_ok]
  simp only [Except.mapError_eq_ok]

/-- **What the YAML loader makes of a file**: its authentication, its signer, and
its tokens in their order. -/
theorem fromFile_eq_ok {env : Environment} {file : MultiTokenConfigFile}
    (h : fromFile libs env file = .ok config) :
    yamlJwt env (file.auth.getD {}) = .ok config.jwt
      ∧ yamlSigner env file.signer = .ok config.signer
      ∧ yamlTokens config.signer.keyRef
          (file.signer.relayerBaseDerivationPath.getD "m/44'/60'/99'/0") 0 file.tokens
        = .ok config.tokens := by
  unfold fromFile at h
  obtain ⟨_, -, h⟩ := Except.bind_eq_ok.mp h
  obtain ⟨_, -, h⟩ := Except.bind_eq_ok.mp h
  obtain ⟨_, -, h⟩ := Except.bind_eq_ok.mp h
  obtain ⟨_, -, h⟩ := Except.bind_eq_ok.mp h
  obtain ⟨jwt, hjwt, h⟩ := Except.bind_eq_ok.mp h
  obtain ⟨signer, hsigner, h⟩ := Except.bind_eq_ok.mp h
  cases htokens : file.tokens with
  | nil => simp [htokens] at h
  | cons t ts =>
    simp only [htokens] at h
    obtain ⟨first, hfirst, h⟩ := Except.bind_eq_ok.mp h
    obtain ⟨rest, hrest, h⟩ := Except.bind_eq_ok.mp h
    rw [← Except.ok.inj h]
    exact ⟨hjwt, hsigner, Except.bind_eq_ok.mpr ⟨first, hfirst,
      Except.bind_eq_ok.mpr ⟨rest, hrest, rfl⟩⟩⟩

/-- **In production, an accepted configuration has no plaintext key that its
loader knew of**, and no shared JWT secret. -/
theorem secretMaterialPresent_of_validateProfile (h : validateProfile libs config = .ok ())
    (hproduction : config.profile = .production) :
    config.signer.secretMaterialPresent = false ∧ config.jwt.legacySecretPresent = false := by
  have herrors := validateProfile_eq_ok.mp h
  simp only [profileErrors, if_pos hproduction, productionErrors, List.append_eq_nil_iff] at herrors
  obtain ⟨-, ⟨⟨⟨-, hsecret⟩, -⟩, hlegacy⟩, -⟩ := herrors
  constructor
  · cases hpresent : config.signer.secretMaterialPresent with
    | false => rfl
    | true => simp [hpresent] at hsecret
  · cases hpresent : config.jwt.legacySecretPresent with
    | false => rfl
    | true => simp [hpresent] at hlegacy

end Config
