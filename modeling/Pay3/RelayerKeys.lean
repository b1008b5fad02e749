import Mathlib
import Pay3.Config
import Pay3.OrdersCreatedOnce

/-!
# The keys of the relayers

A relayer pays the gas of a gasless collection from an account of its own, given
by a signer key and a derivation path. The receive addresses of the orders are
accounts too, of the signer's key at the paths the wallet cursor walks through:
all of `m/44'/60'/account'/change/address`, from `0, 0, 0` on.

Nothing keeps the two apart. Where no path is configured, the relayer of the
environment loader has the path of the very first order, and the relayers of a
YAML file have paths of account 99, which the cursor comes to as well; and two
tokens of a file may be given the same path. What is needed is that a relayer
under the signer's key has a path of another form, and that the paths given in
the file are not those of other tokens (`relayers_apart`).
-/

open Config

/-! ## Strategies -/

namespace Config

/-- The methods of `lookup_preset`. -/
def presetMethods : List ((ℕ × EvmAddress) × CollectionMethod) :=
  [((1, 0xa0b86991c6218b36c1d19d4a2e9eb0ce3606eb48), .eip3009),
   ((1, 0xdac17f958d2ee523a2206206994597c13d831ec7), .standard),
   ((1, 0x6b175474e89094c44da98b954eedeac495271d0f), .standard),
   ((137, 0xc2132d05d31c914a87c6611c10748aeb04b58e8f), .polygonMetaTx),
   ((137, 0x3c499c542cef5e3811e1192ce70d8cc03d5c3359), .eip3009),
   ((137, 0x2791bca1f2de4661ed88a30c99a7a9449aa84174), .eip3009),
   ((137, 0x8f3cf7ad23cd3cadbd9735aff958023239c6a063), .standard),
   ((42161, 0xaf88d065e77c8cc2239327c5edb3a432268e5831), .eip3009),
   ((42161, 0xfd086bc7cd5c481dcc9c85ebe478a1c0b69fcbb9), .standard),
   ((42161, 0xff970a61a04b1ca14834a43f5de4533ebddb5cc8), .standard),
   ((10, 0x0b2c639c533813f4aa9d7837caf62653d097ff85), .eip3009),
   ((10, 0x94b008aa00579c1307b0ef2c499ad98a8ce58e58), .standard),
   ((8453, 0x833589fcd6edb6e08f4c7c32d4f71b54bda02913), .eip3009),
   ((43114, 0xb97ef9ef8734c71904d8002f8b6bc66dd9c48a6e), .eip3009),
   ((43114, 0x9702230a8ea53601f5cd2dc00fdbc13d4df4a8c7), .standard),
   ((56, 0x55d398326f99059ff775485246999027b3197955), .standard),
   ((56, 0x8ac76a51cc950d9822d68b83fe1ad97b32cd580d), .standard)]

/-- `lookup_preset`, as far as the method goes. -/
def lookupPreset (chainId : ℕ) (tokenAddress : EvmAddress) : Option CollectionMethod :=
  (presetMethods.find? (fun preset => decide (preset.1 = (chainId, tokenAddress)))).map Prod.snd

/-- `lookup_heuristic`, as far as the method goes. -/
def lookupHeuristic (chainId : ℕ) (tokenSymbol : String) : CollectionMethod :=
  let sym := trimText tokenSymbol
  if eqIgnoreAsciiCase sym "USDC" || eqIgnoreAsciiCase sym "USDC.e" then
    if chainId = 56 then .standard else .eip3009
  else if eqIgnoreAsciiCase sym "USDT" then
    if chainId = 137 then .polygonMetaTx else .standard
  else .standard

/-- **The method of `resolve_optimal_collection_strategy_with_probe`**, with what
the probe of the contract found. -/
def resolveMethod (probed : EvmAddress → CollectionMethod) (token : TokenInstanceConfig) :
    CollectionMethod :=
  if token.collection.method ≠ .auto then token.collection.method
  else if token.collection.relayerKeyRef.isNone then .standard
  else match lookupPreset token.chain.chainId token.chain.tokenAddress with
    | some method => method
    | none => match probed token.chain.tokenAddress with
      | .standard => lookupHeuristic token.chain.chainId token.chain.tokenSymbol
      | .eip2612 => .standard
      | method => method

/-- The key and the path of the relayer of a token. -/
def TokenInstanceConfig.relayer (token : TokenInstanceConfig) : Option (String × String) :=
  token.collection.relayerKeyRef.map (fun keyRef => (keyRef, token.collection.relayerDerivationPath))

/-- **The relayer a token's collections go through**, if its strategy is a gasless
one. -/
def TokenInstanceConfig.gaslessRelayer (probed : EvmAddress → CollectionMethod)
    (token : TokenInstanceConfig) : Option (String × String) :=
  if (resolveMethod probed token).isGasless then token.relayer else none

end Config

/-! ## The accounts of the orders -/

/-- **A child account of a key**, at the path of its segment. -/
structure ChildAccountRecord.IsChildOf (keyRef : String) (account : ChildAccountRecord) : Prop where
  signerKeyRef : account.signerKeyRef = trimText keyRef
  derivationPath : account.derivationPath = account.derivationSegment.derivationPath

/-- What a request knows is of the key. -/
def CreatePc.KeyedBy (keyRef : String) : CreatePc → Prop
  | .derive _ _ allocated => allocated.signerKeyRef = keyRef
  | .lock _ command | .read _ command | .insert _ command _ | .commit _ command =>
    command.childAccount.IsChildOf keyRef
  | _ => True

/-- **All is of one key**: the cursor, what the requests know, and the accounts. -/
structure KeyInv (keyRef : String) (s : OrderSystem) : Prop where
  cursor : ∀ c ∈ s.cursor, c.signerKeyRef = keyRef
  pcs : ∀ t, (s.pcs t).KeyedBy keyRef
  accounts : ∀ account ∈ s.db.collector.childAccounts, account.IsChildOf keyRef

namespace KeyInv

variable {keyRef : String} {s s' : OrderSystem} {t : ℕ}
  {keccak256 : List UInt8 → BitVec 256} {ryu : BitVec 64 → String} {hashtext : String → BitVec 32}

theorem goto (h : KeyInv keyRef s) (t : ℕ) (pc : CreatePc) (hpc : pc.KeyedBy keyRef) :
    KeyInv keyRef (s.goto t pc) where
  cursor := h.cursor
  pcs := forall_update (P := fun _ pc' => pc'.KeyedBy keyRef) hpc (fun t' _ => h.pcs t')
  accounts := h.accounts

theorem abandon (h : KeyInv keyRef s) (t : ℕ) (pc : CreatePc) (hpc : pc.KeyedBy keyRef) :
    KeyInv keyRef (s.abandon t pc) where
  cursor := h.cursor
  pcs := forall_update (P := fun _ pc' => pc'.KeyedBy keyRef) hpc (fun t' _ => h.pcs t')
  accounts := h.accounts

theorem answer (h : KeyInv keyRef s) {request : CreateRequest} {a : CreateAnswer} :
    KeyInv keyRef (s.answer t request a) where
  cursor := h.cursor
  pcs := (h.abandon t .idle trivial).pcs
  accounts := h.accounts

/-- An allocation hands out a segment of the key. -/
theorem allocate (h : KeyInv keyRef s) {request : CreateRequest} {block : ChainBlockRef} :
    KeyInv keyRef (s.stepAllocate t request block) := by
  unfold OrderSystem.stepAllocate
  split
  · exact h.answer
  · rename_i allocated cursor' hallocate
    obtain ⟨cursor, hcursor, hallocated, hcursor'⟩ :
        ∃ cursor, s.cursor = some cursor ∧ allocated.signerKeyRef = cursor.signerKeyRef
          ∧ cursor'.signerKeyRef = cursor.signerKeyRef := by
      unfold allocateDerivationSegment at hallocate
      obtain ⟨cursor, hrow, hallocate⟩ := Except.bind_eq_ok.mp hallocate
      obtain ⟨next, -, hallocate⟩ := Except.bind_eq_ok.mp hallocate
      obtain ⟨rfl, rfl⟩ := Prod.mk.inj (Except.ok.inj hallocate)
      exact ⟨cursor, orError_eq_ok.mp hrow, rfl, rfl⟩
    have hkey := h.cursor cursor hcursor
    have hgoto := h.goto t (.derive request block allocated) (hallocated.trans hkey)
    exact ⟨fun c hc => Option.some.inj hc ▸ hcursor'.trans hkey, hgoto.pcs, hgoto.accounts⟩

/-- A command is put together for an account of the key. -/
theorem derive (h : KeyInv keyRef s) {request : CreateRequest} {block : ChainBlockRef}
    {allocated : AllocatedDerivation} (hpc : s.pcs t = .derive request block allocated)
    {derived : Except WalletError EvmAddress} {now : Timestamp} {ids : NewOrderIds} :
    KeyInv keyRef (s.stepDerive keccak256 ryu t request block allocated derived now ids) := by
  have hkey : allocated.signerKeyRef = keyRef := by
    have := h.pcs t
    rwa [hpc] at this
  unfold OrderSystem.stepDerive
  split
  · exact h.answer
  · rename_i command hcommand
    obtain ⟨-, hsigner, hsegment, hpath⟩ := createOrderCommand_eq_ok hcommand
    exact h.goto t _ ⟨hkey ▸ hsigner, hpath.trans (hsegment ▸ rfl)⟩

/-- A commit adds an account of the key. -/
theorem commit (h : KeyInv keyRef s) {request : CreateRequest} {command : CreateOrderCommand}
    (hpc : s.pcs t = .commit request command) : KeyInv keyRef (s.stepCommit t request command) := by
  have haccount : command.childAccount.IsChildOf keyRef := by
    have := h.pcs t
    rwa [hpc] at this
  unfold OrderSystem.stepCommit
  split
  · exact h.answer
  · refine ⟨h.cursor, (h.goto t (.view request .created _) trivial).pcs, fun account hmem => ?_⟩
    obtain hold | hnew := List.mem_append.mp hmem
    · exact h.accounts account hold
    · exact List.mem_singleton.mp hnew ▸ haccount

/-- **A step keeps all to the key.** -/
theorem step (h : KeyInv keyRef s) {a : CreateAction}
    (hst : s.step keccak256 ryu hashtext a = some s') : KeyInv keyRef s' := by
  -- what a request knows is handed on by the steps that do not make it up
  have hknown : ∀ {t pc}, s.pcs t = pc → pc.KeyedBy keyRef := fun hpc => hpc ▸ h.pcs _
  cases a with
  | call t config ownerSub input =>
    simp only [OrderSystem.step] at hst
    split at hst
    · exact Option.some.inj hst ▸ h.goto t _ trivial
    · cases hst
  | lookup t =>
    simp only [OrderSystem.step, OrderSystem.stepLookup] at hst
    split at hst
    · rw [← Option.some.inj hst]
      split
      · exact h.answer
      · exact h.goto t _ trivial
      · split_ifs
        · exact h.goto t _ trivial
        · exact h.answer
    · cases hst
  | head t answer =>
    simp only [OrderSystem.step] at hst
    split at hst
    · split at hst
      · exact Option.some.inj hst ▸ h.answer
      · exact Option.some.inj hst ▸ h.goto t _ trivial
    · cases hst
  | allocate t =>
    simp only [OrderSystem.step] at hst
    split at hst
    · exact Option.some.inj hst ▸ h.allocate
    · cases hst
  | derive t answer now ids =>
    simp only [OrderSystem.step] at hst
    split at hst
    · rename_i hpc
      exact Option.some.inj hst ▸ h.derive hpc
    · cases hst
  | lock t =>
    simp only [OrderSystem.step] at hst
    split at hst
    · rename_i request command hpc
      split_ifs at hst
      have hcommand := hknown hpc
      have hgoto := h.goto t (.read request command) hcommand
      exact Option.some.inj hst ▸ ⟨hgoto.cursor, hgoto.pcs, hgoto.accounts⟩
    · cases hst
  | read t =>
    simp only [OrderSystem.step, OrderSystem.stepRead] at hst
    split at hst
    · rename_i request command hpc
      have hcommand := hknown hpc
      rw [← Option.some.inj hst]
      split
      · exact h.answer
      · exact h.goto t _ hcommand
      · split_ifs
        · exact h.abandon t _ trivial
        · exact h.answer
    · cases hst
  | insert t =>
    simp only [OrderSystem.step, OrderSystem.stepInsert] at hst
    split at hst
    · rename_i request command stage hpc
      split at hst
      · exact Option.some.inj hst ▸ h.answer
      · split_ifs at hst
        have hcommand := hknown hpc
        have hgoto := h.goto t (.afterInsert request command stage)
          (by cases stage <;> exact hcommand)
        exact Option.some.inj hst ▸ ⟨hgoto.cursor, hgoto.pcs, hgoto.accounts⟩
    · cases hst
  | commit t =>
    simp only [OrderSystem.step] at hst
    split at hst
    · rename_i hpc
      exact Option.some.inj hst ▸ h.commit hpc
    · cases hst
  | view t =>
    simp only [OrderSystem.step, OrderSystem.stepView] at hst
    split at hst
    · rw [← Option.some.inj hst]
      split <;> exact h.answer
    · cases hst
  | crash t =>
    simp only [OrderSystem.step] at hst
    split at hst
    · cases hst
    · exact Option.some.inj hst ▸ h.abandon t _ trivial

end KeyInv

/-! ## What keeps the keys apart -/

section Apart

/-- The paths of the orders. -/
def ChildPath (path : String) : Prop := ∃ segment : DerivationSegment, path = segment.derivationPath

/-- **A relayer under the signer's key has no path of an order.** -/
def OffChildPaths (probed : EvmAddress → CollectionMethod) (config : AppConfig) : Prop :=
  ∀ token ∈ config.tokens, (resolveMethod probed token).isGasless →
    token.collection.relayerKeyRef = some (trimText config.signer.keyRef) →
      ¬ ChildPath token.collection.relayerDerivationPath

namespace Config.MultiTokenConfigFile

variable (file : MultiTokenConfigFile)

/-- The key of the signer. -/
def signerKeyRef : String := file.signer.keyRef.getD "default"

/-- The path of the relayer of the token at `idx`, where the file gives none. -/
def defaultPath (idx : ℕ) : String :=
  file.signer.relayerBaseDerivationPath.getD "m/44'/60'/99'/0" ++ "/" ++ toString idx

/-- **A path given for a relayer is that of no other token with the same key**,
neither given nor a default. -/
def PathsApart : Prop :=
  ∀ (i j : ℕ) (t t' : TokenYamlConfig), i ≠ j → file.tokens[i]? = some t →
    file.tokens[j]? = some t' →
    t.relayerKeyRef.getD file.signerKeyRef = t'.relayerKeyRef.getD file.signerKeyRef →
      ∀ path, t.relayerDerivationPath = some path →
        path ≠ t'.relayerDerivationPath.getD (file.defaultPath j)

/-- Defaults are all different. -/
theorem defaultPath_injective : Function.Injective file.defaultPath := by
  intro i j h
  have hlist := congrArg String.toList h
  unfold defaultPath at hlist
  simp only [String.toList_append] at hlist
  exact Nat.repr_inj.mp (String.toList_inj.mp (List.append_cancel_left hlist))

end Config.MultiTokenConfigFile

/-- **Different tokens have different relayers.** -/
def RelayersDistinct (config : AppConfig) : Prop :=
  ∀ (i j : ℕ) (token token' : TokenInstanceConfig), i ≠ j → config.tokens[i]? = some token →
    config.tokens[j]? = some token' →
    ∀ relayer, token.relayer = some relayer → token'.relayer ≠ some relayer

/-- The relayers of the tokens of a file. -/
theorem yamlTokens_relayer {signerKeyRef base : String} {ts : List TokenYamlConfig} {idx : ℕ}
    {tokens : List TokenInstanceConfig} (h : yamlTokens signerKeyRef base idx ts = .ok tokens)
    (i : ℕ) : tokens[i]?.map TokenInstanceConfig.relayer
      = ts[i]?.map (fun t => some (t.relayerKeyRef.getD signerKeyRef,
        t.relayerDerivationPath.getD (base ++ "/" ++ toString (idx + i)))) := by
  induction ts generalizing idx tokens i with
  | nil => rw [← Except.ok.inj h]; rfl
  | cons t ts ih =>
    unfold yamlTokens at h
    obtain ⟨token, htoken, h⟩ := Except.bind_eq_ok.mp h
    obtain ⟨rest, hrest, h⟩ := Except.bind_eq_ok.mp h
    obtain rfl := Except.ok.inj h
    cases i with
    | zero =>
      have hrelayer : token.relayer = some (t.relayerKeyRef.getD signerKeyRef,
          t.relayerDerivationPath.getD (base ++ "/" ++ toString idx)) := by
        unfold yamlToken at htoken
        obtain ⟨_, -, htoken⟩ := Except.bind_eq_ok.mp htoken
        obtain ⟨_, -, htoken⟩ := Except.bind_eq_ok.mp htoken
        obtain ⟨_, -, htoken⟩ := Except.bind_eq_ok.mp htoken
        obtain ⟨_, -, htoken⟩ := Except.bind_eq_ok.mp htoken
        rw [← Except.ok.inj htoken]
        cases hkey : t.relayerKeyRef <;> simp [TokenInstanceConfig.relayer]
      simpa using hrelayer
    | succ i =>
      rw [List.getElem?_cons_succ, List.getElem?_cons_succ, ih hrest, Nat.add_assoc,
        Nat.add_comm 1 i]

variable {libs : ConfigLibraries} {env : Environment} {config : AppConfig}

/-- The relayers of a configuration that was loaded from a file. -/
theorem fromFile_relayer {file : MultiTokenConfigFile}
    (h : fromFile libs env file = .ok config) (i : ℕ) :
    config.tokens[i]?.map TokenInstanceConfig.relayer
      = file.tokens[i]?.map (fun t => some (t.relayerKeyRef.getD file.signerKeyRef,
        t.relayerDerivationPath.getD (file.defaultPath i))) := by
  obtain ⟨-, hsigner, htokens⟩ := fromFile_eq_ok h
  have hkeyRef : config.signer.keyRef = file.signerKeyRef := by
    unfold yamlSigner at hsigner
    obtain ⟨_, -, hsigner⟩ := Except.bind_eq_ok.mp hsigner
    rw [← Except.ok.inj hsigner]
    rfl
  have hrelayer := yamlTokens_relayer htokens i
  rw [hkeyRef, Nat.zero_add] at hrelayer
  exact hrelayer

/-- **The relayers of a file are distinct exactly when the paths it gives are
apart**: two defaults never meet. -/
theorem relayersDistinct_iff {file : MultiTokenConfigFile}
    (h : fromFile libs env file = .ok config) : RelayersDistinct config ↔ file.PathsApart := by
  have hrelayer : ∀ (i : ℕ) (t : TokenYamlConfig), file.tokens[i]? = some t →
      ∃ token : TokenInstanceConfig, config.tokens[i]? = some token ∧ token.relayer = some (t.relayerKeyRef.getD file.signerKeyRef,
        t.relayerDerivationPath.getD (file.defaultPath i)) := by
    intro i t ht
    have hmap := fromFile_relayer h i
    rw [ht] at hmap
    exact Option.map_eq_some_iff.mp hmap
  have hyaml : ∀ (i : ℕ) (token : TokenInstanceConfig), config.tokens[i]? = some token →
      ∃ t, file.tokens[i]? = some t := by
    intro i token htoken
    have hmap := fromFile_relayer h i
    rw [htoken] at hmap
    obtain ⟨t, ht, -⟩ := Option.map_eq_some_iff.mp hmap.symm
    exact ⟨t, ht⟩
  constructor
  · intro hdistinct i j t t' hij ht ht' hkey path hpath heq
    obtain ⟨token, htoken, hr⟩ := hrelayer i t ht
    obtain ⟨token', htoken', hr'⟩ := hrelayer j t' ht'
    refine hdistinct i j token token' hij htoken htoken' _ hr (hr'.trans ?_)
    rw [hpath, Option.getD_some, heq, hkey]
  · intro hapart i j token token' hij htoken htoken' relayer hr hr'
    obtain ⟨t, ht⟩ := hyaml i token htoken
    obtain ⟨t', ht'⟩ := hyaml j token' htoken'
    obtain ⟨_, hsome, hrelayer₁⟩ := hrelayer i t ht
    obtain ⟨_, hsome', hrelayer₂⟩ := hrelayer j t' ht'
    obtain rfl := Option.some.inj (htoken.symm.trans hsome)
    obtain rfl := Option.some.inj (htoken'.symm.trans hsome')
    obtain ⟨hkey, hpath⟩ := Prod.mk.inj (Option.some.inj
      ((hrelayer₁.symm.trans hr).trans (hr'.symm.trans hrelayer₂)))
    cases hgiven : t.relayerDerivationPath with
    | some path =>
      rw [hgiven, Option.getD_some] at hpath
      exact hapart i j t t' hij ht ht' hkey path hgiven hpath
    | none =>
      rw [hgiven, Option.getD_none] at hpath
      cases hgiven' : t'.relayerDerivationPath with
      | some path =>
        rw [hgiven', Option.getD_some] at hpath
        refine hapart j i t' t hij.symm ht' ht hkey.symm path hgiven' ?_
        rw [hgiven, Option.getD_none, hpath]
      | none =>
        rw [hgiven', Option.getD_none] at hpath
        exact hij (file.defaultPath_injective hpath)

/-! ## Any run -/

variable (keccak256 : List UInt8 → BitVec 256) (ryu : BitVec 64 → String)
  (hashtext : String → BitVec 32) (probed : EvmAddress → CollectionMethod)

/-- **A deployment that has just been seeded**: no request is running, and the
cursor is the one a start of the service inserts. -/
structure OrderSystem.Seeded (config : AppConfig) (s : OrderSystem) : Prop where
  initial : s.Initial
  cursor : ∃ cursor, seedCursor config.signer.keyRef none = .ok cursor ∧ s.cursor = some cursor

/-- **The keys are apart**: in every run from the seeded cursor, no account of an
order is the relayer of a gasless strategy; and no two tokens share a relayer. -/
structure KeysApart (config : AppConfig) : Prop where
  children : ∀ start as s, start.Seeded config →
    runSteps (OrderSystem.step keccak256 ryu hashtext) start as = some s →
      ∀ account ∈ s.db.collector.childAccounts, ∀ token ∈ config.tokens,
        token.gaslessRelayer probed ≠ some (account.signerKeyRef, account.derivationPath)
  relayers : RelayersDistinct config

variable {keccak256 ryu hashtext probed}

/-- A seeded deployment has no accounts yet: there is no segment before the
first. -/
theorem OrderSystem.Seeded.keyInv {s : OrderSystem} (h : s.Seeded config) :
    KeyInv config.signer.keyRef s := by
  obtain ⟨cursor, hseed, hcursor⟩ := h.cursor
  unfold seedCursor at hseed
  obtain ⟨-, hseed⟩ := ensure_bind_eq_ok.mp hseed
  obtain rfl := Except.ok.inj hseed
  refine ⟨fun c hc => ?_, fun t => ?_, fun account haccount => ?_⟩
  · rw [hcursor] at hc
    exact Option.some.inj hc ▸ rfl
  · rw [h.initial.idle]
    trivial
  · obtain ⟨c, hc, hlt⟩ := h.initial.below _ (List.mem_map_of_mem haccount)
    rw [hcursor] at hc
    obtain rfl := Option.some.inj hc
    obtain hlt | ⟨-, hlt | ⟨-, hlt⟩⟩ := DerivationSegment.lt_iff.mp hlt <;>
      exact absurd hlt (Nat.not_lt_zero _)

/-- **No account of an order is a relayer off the paths of the orders.** -/
theorem children_apart {start s : OrderSystem} {as : List CreateAction}
    (hseeded : start.Seeded config)
    (hrun : runSteps (OrderSystem.step keccak256 ryu hashtext) start as = some s)
    (hoff : OffChildPaths probed config) {account : ChildAccountRecord}
    (haccount : account ∈ s.db.collector.childAccounts) {token : TokenInstanceConfig}
    (htoken : token ∈ config.tokens) :
    token.gaslessRelayer probed ≠ some (account.signerKeyRef, account.derivationPath) := by
  have hinv : KeyInv config.signer.keyRef s := inv_of_run (P := fun _ _ => True)
    (fun _ _ _ h _ hst => h.step hst) hseeded.keyInv (stepsMeet_of_forall (fun _ _ => trivial) _ _)
    hrun
  obtain ⟨hkey, hpath⟩ := hinv.accounts account haccount
  intro hrelayer
  unfold TokenInstanceConfig.gaslessRelayer at hrelayer
  split_ifs at hrelayer with hgasless
  obtain ⟨keyRef, hkeyRef, heq⟩ := Option.map_eq_some_iff.mp hrelayer
  obtain ⟨rfl, hsame⟩ := Prod.mk.inj heq
  exact hoff token htoken hgasless (hkey ▸ hkeyRef) ⟨_, hsame.trans hpath⟩

variable (keccak256 ryu hashtext probed libs env config) in
/-- **Relayers are apart from the orders and from each other** as long as no
relayer under the signer's key has a path of an order and, for a YAML file, no
path given for a relayer is the path of another token's. With the environment
loader there is one token only. -/
theorem relayers_apart :
    (fromPairs libs env = .ok config → OffChildPaths probed config →
        KeysApart keccak256 ryu hashtext probed config)
      ∧ ∀ yaml file, libs.yamlFromStr (expandEnvVars env yaml) = .ok file →
        fromYamlStr libs env yaml = .ok config → OffChildPaths probed config →
          (file.PathsApart ↔ KeysApart keccak256 ryu hashtext probed config) := by
  constructor
  · intro hloaded hoff
    refine ⟨fun start as s hseeded hrun account haccount token htoken =>
      children_apart hseeded hrun hoff haccount htoken, ?_⟩
    have hone := (fromPairs_eq_ok hloaded).2
    intro i j token token' hij hi hj
    obtain ⟨hilt, -⟩ := List.getElem?_eq_some_iff.mp hi
    obtain ⟨hjlt, -⟩ := List.getElem?_eq_some_iff.mp hj
    omega
  · intro yaml file hfile hloaded hoff
    obtain ⟨file', hfile', hloaded⟩ := fromYamlStr_eq_ok.mp hloaded
    obtain rfl := Except.ok.inj (hfile.symm.trans hfile')
    have hdistinct := relayersDistinct_iff hloaded
    exact ⟨fun hapart => ⟨fun start as s hseeded hrun account haccount token htoken =>
        children_apart hseeded hrun hoff haccount htoken, hdistinct.mpr hapart⟩,
      fun hkeys => hdistinct.mp hkeys.relayers⟩

end Apart

/-! ## The first order of a deployment -/

namespace RelayerKeys

/-- Libraries that read one file. -/
def libs (file : MultiTokenConfigFile) : ConfigLibraries where
  parseSocketAddr _ := .ok ⟨[127, 0, 0, 1], 8080⟩
  yamlFromStr _ := .ok file
  jsonFromStr _ := none

/-- Two tokens with the gasless method EIP-3009 and relayers of one key, which is
not the signer's; one path is given, the other is a default. -/
def file : MultiTokenConfigFile where
  databaseUrl := some "postgres://pay3@localhost:5432/pay3"
  signer := { mode := "fake", keyRef := some "pay3-master" }
  tokens := [
    { chainId := 1
      tokenAddress := "0x0000000000000000000000000000000000000070"
      treasuryAddress := "0x0000000000000000000000000000000000000002"
      problemFundsAddress := some "0x0000000000000000000000000000000000000003"
      rpcUrls := ["http://localhost:8545"]
      collectionMethod := some "eip3009"
      relayerKeyRef := some "pay3-relayer"
      relayerDerivationPath := some "m/44'/60'/0'/0/0" },
    { chainId := 137
      tokenAddress := "0x0000000000000000000000000000000000000071"
      treasuryAddress := "0x0000000000000000000000000000000000000002"
      problemFundsAddress := some "0x0000000000000000000000000000000000000003"
      rpcUrls := ["http://localhost:8545"]
      collectionMethod := some "eip3009"
      relayerKeyRef := some "pay3-relayer" }]

/-- A deployment with the gasless method EIP-3009, its relayer under the key of
the signer, and no path set. -/
def env : Environment :=
  [("DATABASE_URL", "postgres://pay3@localhost:5432/pay3"), ("JWT_ISSUER", "pay3"),
    ("JWT_AUDIENCE", "pay3-api"), ("JWT_SECRET", "0123456789abcdef0123456789abcdef"),
    ("CHAIN_ID", "1"), ("TOKEN_ADDRESS", "0x0000000000000000000000000000000000000070"),
    ("TOKEN_DECIMALS", "6"), ("TREASURY_ADDRESS", "0x0000000000000000000000000000000000000002"),
    ("PROBLEM_FUNDS_ADDRESS", "0x0000000000000000000000000000000000000003"),
    ("RPC_HTTP_URLS", "http://localhost:8545"), ("START_BLOCK", "1"), ("MIN_CONFIRMATIONS", "12"),
    ("COLLECTION_METHOD", "eip3009"), ("COLLECTION_RELAYER_KEY_REF", "pay3-master"),
    ("SIGNER_MODE", "fake"), ("SIGNER_KEY_REF", "pay3-master")]

/-- Its chain. -/
def chain : ChainConfig :=
  ⟨1, 0x70, 6, "TOKEN", 2, 3, ["http://localhost:8545"], 1, 12, false⟩

/-- Its collection. -/
def collection : CollectionConfig := { method := .eip3009, relayerKeyRef := some "pay3-master" }

/-- Its configuration. -/
def config : AppConfig where
  profile := .development
  runtime := ⟨.all, ⟨true, true, true, true, true, true, true⟩⟩
  bindAddr := ⟨[127, 0, 0, 1], 8080⟩
  databaseUrl := "postgres://pay3@localhost:5432/pay3"
  kvdb := ⟨"", none⟩
  jwt := ⟨"pay3", "pay3-api", none, .hs256 "0123456789abcdef0123456789abcdef" none, true, none⟩
  chain
  transferLog := {}
  collection
  collector := {}
  signer := ⟨.fake, "pay3-master", none, false, false, none, 15, none, false⟩
  tokens := [⟨chain, collection, {}, {}⟩]

/-- The contract was not probed. -/
def unprobed (_ : EvmAddress) : CollectionMethod := .standard

/-- One order is created. -/
def oneOrder : List CreateAction := OneShop.begins 0 900 100 ++ OneShop.derives 0 ++ OneShop.stores 0

end RelayerKeys

open RelayerKeys

theorem relayers_apart_own_key : ∃ config, fromYamlStr (libs file) [] "" = .ok config
    ∧ KeysApart OneShop.keccak256 OneShop.ryu OneShop.hashtext unprobed config := by
  have hload : ((fromYamlStr (libs file) [] "").toOption).map (fun config =>
      config.tokens.all (fun token => decide (token.collection.relayerKeyRef
        ≠ some (trimText config.signer.keyRef)))) = some true := by decide +kernel
  obtain ⟨config, hconfig, hkeys⟩ := Option.map_eq_some_iff.mp hload
  have hloaded := Except.toOption_eq_some.mp hconfig
  have hoff : OffChildPaths unprobed config := fun token htoken _ hkey =>
    absurd hkey (of_decide_eq_true (List.all_eq_true.mp hkeys token htoken))
  have hdefault : file.defaultPath 1 ≠ "m/44'/60'/0'/0/0" := by decide +kernel
  refine ⟨config, hloaded, ((relayers_apart (libs file) [] config _ _ _ unprobed).2 "" file rfl
    hloaded hoff).mp ?_⟩
  intro i j t t' hij ht ht' hkey path hpath
  have hi := (List.getElem?_eq_some_iff.mp ht).1
  have hj := (List.getElem?_eq_some_iff.mp ht').1
  match i, j, hi, hj with
  | 0, 1, _, _ =>
    rw [← Option.some.inj ht] at hpath
    rw [← Option.some.inj ht', ← Option.some.inj hpath]
    exact hdefault.symm
  | 1, 0, _, _ =>
    rw [← Option.some.inj ht] at hpath
    cases hpath
  | 0, 0, _, _ => exact absurd rfl hij
  | 1, 1, _, _ => exact absurd rfl hij

/-- **The first order of a deployment is its relayer**: the relayer's path is not
set, and its default is the path of the first order. -/
theorem first_order_is_relayer :
    fromPairs (libs file) env = .ok config
      ∧ validateProfile (libs file) config = .ok ()
      ∧ OneShop.start.Seeded config
      ∧ ∃ s, runSteps OneShop.step OneShop.start oneOrder = some s
        ∧ ∃ account ∈ s.db.collector.childAccounts, ∃ token ∈ config.tokens,
          token.gaslessRelayer unprobed = some (account.signerKeyRef, account.derivationPath) := by
  have hcheck : (runSteps OneShop.step OneShop.start oneOrder).map (fun s =>
      s.db.collector.childAccounts.any (fun account => config.tokens.any (fun token =>
        decide (token.gaslessRelayer unprobed
          = some (account.signerKeyRef, account.derivationPath))))) = some true := by
    decide +kernel
  obtain ⟨s, hrun, hany⟩ := Option.map_eq_some_iff.mp hcheck
  obtain ⟨account, haccount, hany⟩ := List.any_eq_true.mp hany
  obtain ⟨token, htoken, hrelayer⟩ := List.any_eq_true.mp hany
  exact ⟨by decide +kernel, by decide +kernel, ⟨OneShop.start_initial, _, rfl, rfl⟩, s, hrun,
    account, haccount, token, htoken, of_decide_eq_true hrelayer⟩
