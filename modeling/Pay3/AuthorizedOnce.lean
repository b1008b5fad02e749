import Pay3.CollectionCalldata
import Pay3.CollectorJobs
import Pay3.StoredTransactions

/-!
# A sweep by authorization is executed once

Two workers may sign for one collection, a worker may sign again after a crash,
and every replacement is signed anew, at another time and perhaps for another
amount; their transactions may even have different nonces of the relayer. What
holds them together is the nonce inside the authorization, a hash of the
identifier of the collection. The token takes an authorization of an account
once, and the account of a collection never changes.

The collector is taken as it is, under any schedule, and beside it stands what
no step reads: everything that was signed, with the collection it was signed
for.
-/

/-! ## What is signed -/

/-- The calldata of a transaction that was signed, and for which collection. -/
structure SignedCall where
  collectionId : Uuid
  data : List UInt8
  deriving DecidableEq

/-- The collector, with everything it has signed so far. -/
structure AuthorizingState where
  base : CollectorState
  signed : List SignedCall

/-- **A step of the collector**, with the clock of the worker and the answers of
the signer, should it sign. -/
structure AuthorizingAction where
  action : CollectorAction
  clock : UInt64
  signDigest : String → String → BitVec 256 → Except String TypedSignature

namespace AuthorizingState

variable (keccak256 : List UInt8 → BitVec 256) (cfg : ℕ → CollectorConfig)

/-- **One step.** A transaction that is signed stays in the world even when the
checks after it turn it down. -/
def step (s : AuthorizingState) (a : AuthorizingAction) : Option AuthorizingState :=
  match s.base.signing? a.action with
  | none => (s.base.step cfg a.action).map (fun t => ⟨t, s.signed⟩)
  | some (w, job, amount) =>
    match buildCollectionCalldata keccak256 a.signDigest (cfg w).strategy job amount a.clock with
    | .error _ => none
    | .ok data =>
      (s.base.step cfg a.action).map (fun t => ⟨t, s.signed ++ [⟨job.collection.id, data⟩]⟩)

/-- Nothing has happened and nothing is signed. -/
structure Initial (s : AuthorizingState) : Prop where
  base : s.base.Initial
  signed : s.signed = []

/-- What was signed for a collection. -/
def signedFor (s : AuthorizingState) (collectionId : Uuid) : List (List UInt8) :=
  (s.signed.filter (fun e => decide (e.collectionId = collectionId))).map SignedCall.data

/-- The texts that were hashed to authorization nonces. -/
def hashedTexts (s : AuthorizingState) : Set (List UInt8) :=
  { bytes | ∃ e ∈ s.signed, bytes = utf8 ("pay3:eip3009:" ++ e.collectionId.hyphenated) }

end AuthorizingState

/-- The authorization nonce in a transaction. -/
def Token.authorizationNonce? (data : List UInt8) : Option (BitVec 256) :=
  (Token.authorization? data).map Prod.snd

/-- The strategy that signs an authorization. -/
def CollectionStrategyConfig.isEip3009 : CollectionStrategyConfig → Bool
  | .eip3009 _ _ _ => true
  | _ => false

/-- **What is signed under the authorization strategy** is an authorization of the
child account, under the nonce of the collection. -/
theorem authorization_of_calldata {ε : Type} {keccak256 : List UInt8 → BitVec 256}
    {signDigest : String → String → BitVec 256 → Except ε TypedSignature}
    {strategy : CollectionStrategyConfig} {job : CollectionJob} {amount : RawAmount} {now : UInt64}
    {data : List UInt8} (hstrategy : strategy.isEip3009 = true)
    (h : buildCollectionCalldata keccak256 signDigest strategy job amount now = .ok data) :
    Token.authorization? data
      = some (job.collection.fromAddress, authNonce keccak256 job.collection.id) := by
  obtain ⟨sig, hdecode, -⟩ := buildCollectionCalldata_eq_ok h
  unfold Token.authorization?
  rw [hdecode]
  cases strategy with
  | eip3009 tokenName tokenVersion relayer => rfl
  | _ => cases hstrategy

/-- The texts of two collections differ. -/
theorem authText_injective {i j : Uuid}
    (h : utf8 ("pay3:eip3009:" ++ i.hyphenated) = utf8 ("pay3:eip3009:" ++ j.hyphenated)) :
    i = j := by
  have htext := congrArg String.toList (utf8_injective h)
  rw [String.toList_append, String.toList_append] at htext
  exact Uuid.hyphenated_injective (String.toList_inj.mp (List.append_cancel_left htext))

namespace AuthorizingState

variable {keccak256 : List UInt8 → BitVec 256} {cfg : ℕ → CollectorConfig}
  {s t : AuthorizingState} {a : AuthorizingAction}

/-- A step is one of the collector, and signs at most one transaction. -/
theorem step_cases (h : step keccak256 cfg s a = some t) :
    s.base.step cfg a.action = some t.base
      ∧ (t.signed = s.signed
        ∨ ∃ w job amount data, s.base.signing? a.action = some (w, job, amount)
          ∧ buildCollectionCalldata keccak256 a.signDigest (cfg w).strategy job amount a.clock
            = .ok data
          ∧ t.signed = s.signed ++ [⟨job.collection.id, data⟩]) := by
  unfold step at h
  split at h
  · obtain ⟨u, hu, rfl⟩ := Option.map_eq_some_iff.mp h
    exact ⟨hu, Or.inl rfl⟩
  · rename_i w job amount hsign
    split at h
    · cases h
    · rename_i data hdata
      obtain ⟨u, hu, rfl⟩ := Option.map_eq_some_iff.mp h
      exact ⟨hu, Or.inr ⟨w, job, amount, data, hsign, hdata, rfl⟩⟩

/-- **The invariant of the authorizations.** Everything signed for a collection
authorizes a payment from its account, under its nonce. -/
structure Authorized (keccak256 : List UInt8 → BitVec 256) (s : AuthorizingState) : Prop where
  sound : s.base.Sound
  jobs : s.base.JobsOfRows
  signed : ∀ e ∈ s.signed, ∃ holder,
    Token.authorization? e.data = some (holder, authNonce keccak256 e.collectionId)
      ∧ s.base.db.Origin e.collectionId holder

/-- It holds before anything happened. -/
theorem Initial.authorized (h : s.Initial) : Authorized keccak256 s := by
  refine ⟨h.base.sound, h.base.jobsOfRows, fun e he => ?_⟩
  rw [h.signed] at he
  cases he

/-- **Every step keeps it**: a signature is for the job of a worker, whose account
is that of the row. -/
theorem Authorized.step (hcfg : ∀ w, (cfg w).strategy.isEip3009 = true)
    (hs : Authorized keccak256 s) (h : AuthorizingState.step keccak256 cfg s a = some t) :
    Authorized keccak256 t := by
  obtain ⟨hbase, hsigned⟩ := step_cases h
  have hold : ∀ e ∈ s.signed, ∃ holder,
      Token.authorization? e.data = some (holder, authNonce keccak256 e.collectionId)
        ∧ t.base.db.Origin e.collectionId holder := by
    intro e he
    obtain ⟨holder, hauth, horigin⟩ := hs.signed e he
    exact ⟨holder, hauth, CollectorState.origin_of_step hbase horigin⟩
  refine ⟨hs.sound.step hbase, hs.jobs.step hbase, fun e he => ?_⟩
  rcases hsigned with hsame | ⟨w, job, amount, data, hsign, hdata, hmore⟩
  · rw [hsame] at he
    exact hold e he
  · rw [hmore] at he
    rcases List.mem_append.mp he with he | he
    · exact hold e he
    · obtain rfl := List.mem_singleton.mp he
      have hjob := CollectorState.job_of_signing hsign
      exact ⟨_, authorization_of_calldata (hcfg w) hdata,
        CollectorState.origin_of_step hbase (hs.jobs w job hjob)⟩

/-- A collection is stored once, so its account is determined. -/
theorem Authorized.holder_unique (hs : Authorized keccak256 s) {i : Uuid} {x y : EvmAddress}
    (hx : s.base.db.Origin i x) (hy : s.base.db.Origin i y) : x = y := by
  obtain ⟨c, hc, hcx⟩ := List.mem_map.mp hx
  obtain ⟨d, hd, hdy⟩ := List.mem_map.mp hy
  obtain ⟨hci, rfl⟩ := Prod.mk.inj hcx
  obtain ⟨hdi, rfl⟩ := Prod.mk.inj hdy
  rw [List.inj_on_of_nodup_map hs.sound.store.collection_ids hc hd (hci.trans hdi.symm)]

/-- The authorization nonce of what is signed. -/
theorem Authorized.nonce (hs : Authorized keccak256 s) {e : SignedCall} (he : e ∈ s.signed) :
    Token.authorizationNonce? e.data = some (authNonce keccak256 e.collectionId) := by
  obtain ⟨holder, hauth, -⟩ := hs.signed e he
  unfold Token.authorizationNonce?
  rw [hauth]
  rfl

/-- Everything signed for a collection is one authorization. -/
theorem Authorized.of_signedFor (hs : Authorized keccak256 s) (i : Uuid) :
    ∃ holder, ∀ data ∈ s.signedFor i,
      Token.authorization? data = some (holder, authNonce keccak256 i) := by
  have hmem : ∀ data ∈ s.signedFor i, ∃ e ∈ s.signed, e.collectionId = i ∧ e.data = data := by
    intro data hdata
    obtain ⟨e, he, hed⟩ := List.mem_map.mp hdata
    obtain ⟨hes, hei⟩ := List.mem_filter.mp he
    exact ⟨e, hes, of_decide_eq_true hei, hed⟩
  by_cases hany : ∃ holder, s.base.db.Origin i holder
  · obtain ⟨holder, horigin⟩ := hany
    refine ⟨holder, fun data hdata => ?_⟩
    obtain ⟨e, he, rfl, rfl⟩ := hmem data hdata
    obtain ⟨holder', hauth, horigin'⟩ := hs.signed e he
    rw [hauth, hs.holder_unique horigin' horigin]
  · refine ⟨0, fun data hdata => ?_⟩
    obtain ⟨e, he, rfl, rfl⟩ := hmem data hdata
    obtain ⟨holder', -, horigin'⟩ := hs.signed e he
    exact absurd ⟨holder', horigin'⟩ hany

end AuthorizingState

/-- **A sweep by authorization is executed once.** Whatever the schedule of the
workers, all that is signed for a collection has one authorization nonce and
different collections have different ones; and whatever is mined in whatever
order, at most one transaction of a collection is executed by the token. -/
theorem authorized_once (keccak256 : List UInt8 → BitVec 256) (cfg : ℕ → CollectorConfig)
    (s t : AuthorizingState) (as : List AuthorizingAction) (hs : s.Initial)
    (hcfg : ∀ w, (cfg w).strategy.isEip3009 = true)
    (hrun : runSteps (AuthorizingState.step keccak256 cfg) s as = some t)
    (hinj : Set.InjOn keccak256 t.hashedTexts) :
    (∀ e ∈ t.signed, (Token.authorizationNonce? e.data).isSome = true
      ∧ ∀ e' ∈ t.signed, (Token.authorizationNonce? e.data = Token.authorizationNonce? e'.data
        ↔ e.collectionId = e'.collectionId))
      ∧ ∀ (i : Uuid) (ecrecover : BitVec 256 → TypedSignature → Option EvmAddress)
        (d : Token.Domain) (token : Token.State) (txs : List Token.Transaction),
        (Token.executed keccak256 ecrecover d token txs).countP
          (fun tx => decide (tx.data ∈ t.signedFor i)) ≤ 1 := by
  have ht : AuthorizingState.Authorized keccak256 t :=
    inv_of_run (P := fun _ _ => True) (fun _ _ _ hs _ h => hs.step hcfg h) hs.authorized
      (stepsMeet_of_forall (fun _ _ => trivial) s as) hrun
  refine ⟨fun e he => ⟨?_, fun e' he' => ?_⟩, fun i ecrecover d token txs => ?_⟩
  · rw [ht.nonce he]
    rfl
  · rw [ht.nonce he, ht.nonce he', Option.some.injEq]
    constructor
    · intro heq
      exact authText_injective (hinj ⟨e, he, rfl⟩ ⟨e', he', rfl⟩ heq)
    · intro heq
      rw [heq]
  · obtain ⟨holder, hall⟩ := ht.of_signedFor i
    refine le_trans (List.countP_mono_left (fun tx _ hmem => ?_))
      (Token.countP_executed_le_one holder (authNonce keccak256 i) txs token)
    exact decide_eq_true (hall tx.data (of_decide_eq_true hmem))

/-! ## Two workers sign for one collection -/

namespace SmallToken

/-- The authorization a minute later. -/
def laterAuthorizationHash : BitVec 256 :=
  0x911ccca3505e3f780fbdcca49c16efba5ea060b7095e271b503addb111a3e2fe

def laterAuthorizationDigest : BitVec 256 :=
  0x7d64bc5a164aa3d38e2dccc7366b8aea85afedb6f30a33a8ab9adff19d6f03b1

/-- The hashes of both. -/
def hashesTwice : List (List UInt8 × BitVec 256) :=
  hashes ++ [(Abi.encodeWords
      [0x7c7c6cdb67a18743f49ec6fa9b35f50d52ed05cbed4cc592e13b44501c1a2267, child.toNat, 0x7e, 100,
        1700000001, 1700086461, nonce.toNat], laterAuthorizationHash),
    (0x19 :: 0x01 :: Abi.encodeWords [separator.toNat, laterAuthorizationHash.toNat],
      laterAuthorizationDigest)]

/-- The signatures of both. -/
def signaturesTwice : List (BitVec 256 × TypedSignature) :=
  signatures ++ [(laterAuthorizationDigest,
    ⟨28, 0x8ae35e3dfe709ef022ad907b8f1ab6f74aa5189c7b0ba3ce8119131e18ea0cd6,
      0x1da5c809dd12580cefb1c99d60477d14b30d249d8502923da5808ec334475432⟩)]

def keccak256Twice (bytes : List UInt8) : BitVec 256 :=
  ((hashesTwice.find? (fun h => decide (h.1 = bytes))).map Prod.snd).getD 0

def signDigestTwice (_ _ : String) (digest : BitVec 256) : Except String TypedSignature :=
  orError ((signaturesTwice.find? (fun p => decide (p.1 = digest))).map Prod.snd) "unknown digest"

def ecrecoverTwice (digest : BitVec 256) (sig : TypedSignature) : Option EvmAddress :=
  if (digest, sig) ∈ signaturesTwice then some child else none

/-- Workers that sweep by authorization. -/
def authorizing (w : ℕ) : CollectorConfig :=
  { SmallDeployment.config w with strategy := byAuthorization }

/-- Nothing has happened yet. -/
def unauthorized : AuthorizingState where
  base := { SmallDeployment.initial with
    db := ⟨[], [], [], [{ SmallDeployment.child with address := child }],
      [⟨0xb1, "merchant", 0xa1, 1, 0x70, child, .paid⟩], [(1, 0x70, 0x7e)], []⟩ }
  signed := []

theorem initial_unauthorized : unauthorized.Initial :=
  ⟨⟨rfl, rfl, rfl, fun _ => rfl, rfl⟩, rfl⟩

/-- Worker `w` claims the collection, finds 100 in the account, reserves a nonce
and signs. -/
def signBy (w : ℕ) (nonce : ℕ) : List CollectorAction :=
  SmallDeployment.claimJobBy w ++ [.worker w (.quote 100 ⟨30, 2⟩), .worker w (.reserve 0),
    .worker w (.sign ⟨1, nonce, 0xbe, 0x70, 0xf0, [0x02]⟩ 0xe0)]

/-- Worker 0 signs and stops; when its lease has run out, worker 1 signs too. -/
def signedTwice : List AuthorizingAction :=
  (.createCollection { SmallDeployment.command with fromAddress := child } :: signBy 0 0).map
      (fun a => ⟨a, now, signDigestTwice⟩)
    ++ (.advanceClock 61000000 :: signBy 1 1).map (fun a => ⟨a, now + 61, signDigestTwice⟩)

end SmallToken

open SmallToken in
/-- Both transactions are signed, and at most one of them is ever executed. -/
theorem authorized_once_of_signedTwice :
    ∃ t, runSteps (AuthorizingState.step keccak256Twice authorizing) unauthorized signedTwice
        = some t
      ∧ (t.signedFor 0xd1).Nodup ∧ (t.signedFor 0xd1).length = 2
      ∧ ∀ (txs : List Token.Transaction),
        (Token.executed keccak256Twice ecrecoverTwice domain state txs).countP
          (fun tx => decide (tx.data ∈ t.signedFor 0xd1)) ≤ 1 := by
  have hok : ((runSteps (AuthorizingState.step keccak256Twice authorizing) unauthorized
      signedTwice).map (fun t => (t.signed.map SignedCall.collectionId,
        decide (t.signedFor 0xd1).Nodup, (t.signedFor 0xd1).length)))
      = some ([0xd1, 0xd1], true, 2) := by decide +kernel
  obtain ⟨t, hrun, ht⟩ := Option.map_eq_some_iff.mp hok
  obtain ⟨hids, hnodup, hlength⟩ : t.signed.map SignedCall.collectionId = [0xd1, 0xd1]
      ∧ decide (t.signedFor 0xd1).Nodup = true ∧ (t.signedFor 0xd1).length = 2 := by
    simpa [Prod.ext_iff] using ht
  have hinj : Set.InjOn keccak256Twice t.hashedTexts := by
    rintro x ⟨e, he, rfl⟩ y ⟨e', he', rfl⟩ -
    have hone : ∀ e ∈ t.signed, e.collectionId = 0xd1 := by
      intro e he
      have hmem := List.mem_map_of_mem (f := SignedCall.collectionId) he
      rw [hids] at hmem
      simpa using hmem
    rw [hone e he, hone e' he']
  refine ⟨t, hrun, of_decide_eq_true hnodup, hlength, fun txs => ?_⟩
  exact (authorized_once keccak256Twice authorizing unauthorized t signedTwice
    initial_unauthorized (fun _ => rfl) hrun hinj).2 0xd1 ecrecoverTwice domain state txs
