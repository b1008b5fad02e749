import Pay3.MockTokens

/-!
# Collections from the test tokens

The collector makes its calldata for the contracts of the standards. The test
tokens read them alike, and whoever sends them: the account that pays for gas is
not looked at. Unlike the standard the dollar coin takes an authorization in the
very second it begins or ends. The tether takes what the collector signs only
as long as the child account has had no meta-transaction, since the collector
always signs for the number 0.

`Usdc.execute_authorization` and `Usdt.execute_metaTransaction` say when the
calldata of a collection are carried out and what they leave, and that is all
they do.
-/

namespace Mock

open Token (Address Word Signature Domain)

/-! ## Reading -/

section Decoding

variable {data args : List UInt8}

theorem readTransfer_eq_some {recipient : Address} {value : Word}
    (h : Token.readTransfer args = some (.transfer recipient value)) :
    readPair args = some (recipient, value) := by
  obtain ⟨r, hr, h⟩ := Option.bind_eq_some_iff.mp h
  obtain ⟨v, hv, h⟩ := Option.bind_eq_some_iff.mp h
  obtain ⟨rfl, rfl⟩ := Token.Call.transfer.inj (Option.some.inj h)
  exact Token.read_step hr (Token.read_step hv rfl)

theorem transfer_of_read {args : List UInt8} {c : Token.Call}
    (h : Token.readTransfer args = some c) : ∃ recipient value, c = .transfer recipient value := by
  simp only [Token.readTransfer, Option.bind_eq_bind, Option.bind_eq_some_iff, Option.pure_def,
    Option.some.injEq] at h
  obtain ⟨recipient, -, value, -, rfl⟩ := h
  exact ⟨recipient, value, rfl⟩

theorem authorization_of_read {args : List UInt8} {c : Token.Call}
    (h : Token.readAuthorization args = some c) :
    ∃ holder recipient value validAfter validBefore nonce sig,
      c = .transferWithAuthorization holder recipient value validAfter validBefore nonce sig := by
  simp only [Token.readAuthorization, Option.bind_eq_bind, Option.bind_eq_some_iff,
    Option.pure_def, Option.some.injEq] at h
  obtain ⟨holder, -, recipient, -, value, -, validAfter, -, validBefore, -, nonce, -,
    v, -, r, -, s, -, rfl⟩ := h
  exact ⟨holder, recipient, value, validAfter, validBefore, nonce, ⟨v, r, s⟩, rfl⟩

theorem metaTransaction_of_read {args : List UInt8} {c : Token.Call}
    (h : Token.readMetaTransaction args = some c) :
    ∃ user functionSignature sig, c = .executeMetaTransaction user functionSignature sig := by
  simp only [Token.readMetaTransaction, Option.bind_eq_bind, Option.bind_eq_some_iff,
    Option.pure_def, Option.some.injEq] at h
  obtain ⟨user, -, functionSignature, -, v, -, r, -, s, -, rfl⟩ := h
  exact ⟨user, functionSignature, ⟨v, r, s⟩, rfl⟩

theorem permit_of_read {args : List UInt8} {c : Token.Call}
    (h : Token.readPermit args = some c) :
    ∃ holder spender value deadline sig, c = .permit holder spender value deadline sig := by
  simp only [Token.readPermit, Option.bind_eq_bind, Option.bind_eq_some_iff, Option.pure_def,
    Option.some.injEq] at h
  obtain ⟨holder, -, spender, -, value, -, deadline, -, v, -, r, -, s, -, rfl⟩ := h
  exact ⟨holder, spender, value, deadline, ⟨v, r, s⟩, rfl⟩

/-- What a token reads has the selector of what it is. -/
theorem selector_of_decode {c : Token.Call} (h : Token.decode data = some c) :
    match c with
    | .transfer _ _ => data.take 4 = Token.transferSelector
        ∧ Token.readTransfer (data.drop 4) = some c
    | .transferWithAuthorization _ _ _ _ _ _ _ => data.take 4 = Token.authorizationSelector
        ∧ Token.readAuthorization (data.drop 4) = some c
    | .executeMetaTransaction _ _ _ => data.take 4 = Token.metaTransactionSelector
        ∧ Token.readMetaTransaction (data.drop 4) = some c
    | .permit _ _ _ _ _ => data.take 4 = Token.permitSelector
        ∧ Token.readPermit (data.drop 4) = some c := by
  unfold Token.decode at h
  split_ifs at h with htransfer hauthorization hmeta hpermit
  · obtain ⟨_, _, rfl⟩ := transfer_of_read h
    exact ⟨htransfer, h⟩
  · obtain ⟨_, _, _, _, _, _, _, rfl⟩ := authorization_of_read h
    exact ⟨hauthorization, h⟩
  · obtain ⟨_, _, _, rfl⟩ := metaTransaction_of_read h
    exact ⟨hmeta, h⟩
  · obtain ⟨_, _, _, _, _, rfl⟩ := permit_of_read h
    exact ⟨hpermit, h⟩

/-- The dollar coin reads an authorization as the standard does. -/
theorem decode_authorization {holder recipient : Address}
    {value validAfter validBefore nonce : Word} {sig : Signature} (h : Token.decode data = some
      (.transferWithAuthorization holder recipient value validAfter validBefore nonce sig)) :
    UsdcCall.decode data = some
      (.transferWithAuthorization holder recipient value validAfter validBefore nonce sig) := by
  obtain ⟨hselector, hread⟩ := selector_of_decode h
  unfold UsdcCall.decode
  rw [if_pos hselector, hread]

/-- The tether reads a meta-transaction as the standard does. -/
theorem decode_metaTransaction {user : Address} {functionSignature : List UInt8} {sig : Signature}
    (h : Token.decode data = some (.executeMetaTransaction user functionSignature sig)) :
    UsdtCall.decode data = some (.executeMetaTransaction user functionSignature sig) := by
  obtain ⟨hselector, hread⟩ := selector_of_decode h
  unfold UsdtCall.decode
  rw [if_pos hselector, hread]

/-- The bytes of a transfer are one, inside a meta-transaction too. -/
theorem innerCall_erc20TransferData (recipient : Address) (value : Word) :
    innerCall (erc20TransferData recipient value) = some (.transfer recipient value) := by
  have hdecode := decode_erc20TransferData recipient value []
  rw [List.append_nil] at hdecode
  obtain ⟨hselector, hread⟩ := selector_of_decode hdecode
  unfold innerCall
  rw [if_pos hselector, readTransfer_eq_some hread]
  rfl

end Decoding

/-! ## The two collections -/

section Calldata

variable {ε : Type} {hash : List UInt8 → Word} {recover : Word → Signature → Option Address}
  {sign : String → String → Word → Except ε TypedSignature} {d : Domain}
  {tokenName tokenVersion : String} {relayer : RelayerConfig} {job : CollectionJob}
  {amount : RawAmount} {now : UInt64} {data : List UInt8} {sender : Address} {timestamp : ℕ}

/-- A signature that verifies is good for a contract, if the signer is not zero. -/
theorem signedBy_of_signed {m : Token.Message} {sig : Signature} {signer : Address}
    (hsigned : Token.Signed hash recover d m sig signer) (hsigner : signer ≠ 0) :
    signedBy recover (m.digest hash d) sig signer = true := by
  unfold signedBy
  rw [show recover (m.digest hash d) sig = some signer from hsigned]
  exact decide_eq_true ⟨hsigner, rfl⟩

/-- **A collection by authorization.** Whoever sends it, the calldata of a collection are carried
out by the dollar coin exactly when the block is in the window of the authorization, its ends
included, the authorization is unused, and the child account has the amount; then the amount is
paid and the authorization used. -/
theorem Usdc.execute_authorization {s : Usdc}
    (hdata : buildCollectionCalldata hash sign (.eip3009 tokenName tokenVersion relayer)
      job amount now = .ok data)
    (hverify : Verifies recover sign job)
    (hd : d = ⟨tokenName, tokenVersion, job.collection.chainId, job.collection.tokenAddress⟩)
    (hchild : job.collection.fromAddress ≠ 0) (htreasury : job.collection.toAddress ≠ 0) :
    s.execute hash recover d ⟨sender, timestamp, data⟩
      = if (validAfter now).toNat ≤ timestamp ∧ timestamp ≤ (validBefore now).toNat
          ∧ s.authorizationState job.collection.fromAddress
            (authNonce hash job.collection.id) = false
          ∧ amount ≤ s.erc20.balanceOf job.collection.fromAddress
        then some { s.useAuthorization job.collection.fromAddress
            (authNonce hash job.collection.id) with
          erc20 := { s.erc20 with
            balanceOf := credit (debit s.erc20.balanceOf job.collection.fromAddress amount)
              job.collection.toAddress amount } }
        else none := by
  obtain ⟨sig, hdecode, hsigned⟩ := signed_of_calldata hdata hverify
    (d := d) (fun d' hd' => by rw [hd, ← Option.some.inj hd'])
  have hgood := signedBy_of_signed (hsigned _ rfl) hchild
  show (UsdcCall.decode data).bind _ = _
  rw [decode_authorization hdecode, Option.bind_some]
  show (if _ then _ else _) = _
  rw [toNat_wordOfU64, toNat_wordOfU64, hgood]
  by_cases hopen : (validAfter now).toNat ≤ timestamp ∧ timestamp ≤ (validBefore now).toNat
      ∧ s.authorizationState job.collection.fromAddress
        (authNonce hash job.collection.id) = false
  · obtain ⟨hbegun, hnotOver, hunused⟩ := hopen
    rw [if_pos ⟨hbegun, hnotOver, hunused, rfl⟩]
    unfold Erc20.transferTokens
    by_cases henough : amount ≤ s.erc20.balanceOf job.collection.fromAddress
    · rw [if_pos ⟨htreasury, henough⟩, if_pos ⟨hbegun, hnotOver, hunused, henough⟩]
      rfl
    · rw [if_neg (fun h => henough h.2), if_neg (fun h => henough h.2.2.2)]
      rfl
  · rw [if_neg (fun h => hopen ⟨h.1, h.2.1, h.2.2.1⟩),
      if_neg (fun h => hopen ⟨h.1, h.2.1, h.2.2.1⟩)]

open SmallToken in
/-- An authorization for 100, from the second it is good. -/
theorem Usdc.execute_of_smallToken : ∃ data,
    buildCollectionCalldata keccak256 signDigest (.eip3009 "USD Coin" "2" SmallToken.relayer)
        SmallToken.job 100 SmallToken.now = .ok data
      ∧ (deployed child 250).execute keccak256 ecrecover domain ⟨0xbe, 1699999940, data⟩
        = if (validAfter SmallToken.now).toNat ≤ 1699999940
            ∧ 1699999940 ≤ (validBefore SmallToken.now).toNat
            ∧ (deployed child 250).authorizationState SmallToken.job.collection.fromAddress
              (authNonce keccak256 SmallToken.job.collection.id) = false
            ∧ 100 ≤ (deployed child 250).erc20.balanceOf SmallToken.job.collection.fromAddress
          then some { (deployed child 250).useAuthorization SmallToken.job.collection.fromAddress
              (authNonce keccak256 SmallToken.job.collection.id) with
            erc20 := { (deployed child 250).erc20 with
              balanceOf := credit (debit (deployed child 250).erc20.balanceOf
                SmallToken.job.collection.fromAddress 100)
                SmallToken.job.collection.toAddress 100 } }
          else none := by
  have hok : (buildCollectionCalldata keccak256 signDigest byAuthorization SmallToken.job 100
      SmallToken.now).toOption.isSome = true := by decide +kernel
  obtain ⟨data, hdata⟩ := Option.isSome_iff_exists.mp hok
  have hdata := Except.toOption_eq_some.mp hdata
  exact ⟨data, hdata, Usdc.execute_authorization hdata (verifies_of_child rfl) rfl (by decide)
    (by decide)⟩

/-- **A collection by meta-transaction.** Whoever sends it and whenever, the calldata of a
collection are carried out by the tether, before the child account has had any meta-transaction,
exactly when the account has the amount; then the amount is paid and the transaction counted. -/
theorem Usdt.execute_metaTransaction {s : Usdt}
    (hdata : buildCollectionCalldata hash sign
      (.polygonMetaTx tokenName tokenVersion relayer) job amount now = .ok data)
    (hverify : Verifies recover sign job)
    (hd : d = ⟨tokenName, tokenVersion, job.collection.chainId, job.collection.tokenAddress⟩)
    (hchild : job.collection.fromAddress ≠ 0) (htreasury : job.collection.toAddress ≠ 0)
    (hfirst : s.nonces job.collection.fromAddress = 0) :
    s.execute hash recover d ⟨sender, timestamp, data⟩
      = if amount ≤ s.erc20.balanceOf job.collection.fromAddress
        then some ⟨{ s.erc20 with
            balanceOf := credit (debit s.erc20.balanceOf job.collection.fromAddress amount)
              job.collection.toAddress amount },
          Function.update s.nonces job.collection.fromAddress 1⟩
        else none := by
  obtain ⟨sig, hdecode, hsigned⟩ := signed_of_calldata hdata hverify
    (d := d) (fun d' hd' => by rw [hd, ← Option.some.inj hd'])
  have hgood := signedBy_of_signed (hsigned _ rfl) hchild
  show (UsdtCall.decode data).bind _ = _
  rw [decode_metaTransaction hdecode, Option.bind_some]
  show (if _ then _ else _) = _
  rw [hfirst, show BitVec.toNat (0 : Word) = metaNonce from rfl, hgood,
    if_pos ⟨rfl, by decide⟩, innerCall_erc20TransferData, Option.bind_some]
  show Option.map _ (Erc20.transferTokens _ _ _ _) = _
  unfold Erc20.transferTokens
  by_cases henough : amount ≤ s.erc20.balanceOf job.collection.fromAddress
  · rw [if_pos ⟨htreasury, henough⟩, if_pos henough]
    rfl
  · rw [if_neg (fun h => henough h.2), if_neg henough]
    rfl

open SmallTether in
/-- A meta-transaction for 100. -/
theorem Usdt.execute_of_smallTether : ∃ data,
    buildCollectionCalldata keccak256 signDigest
        (.polygonMetaTx "(PoS) Tether USD" "1" SmallToken.relayer) SmallToken.job 100
        SmallToken.now = .ok data
      ∧ (deployed SmallToken.child 250).execute keccak256 ecrecover domain ⟨0xbe, 0, data⟩
        = if 100 ≤ (deployed SmallToken.child 250).erc20.balanceOf
              SmallToken.job.collection.fromAddress
          then some ⟨{ (deployed SmallToken.child 250).erc20 with
              balanceOf := credit (debit (deployed SmallToken.child 250).erc20.balanceOf
                SmallToken.job.collection.fromAddress 100)
                SmallToken.job.collection.toAddress 100 },
            Function.update (deployed SmallToken.child 250).nonces
              SmallToken.job.collection.fromAddress 1⟩
          else none := by
  obtain ⟨data, hdata⟩ := exists_calldata
  exact ⟨data, hdata, Usdt.execute_metaTransaction hdata verifies rfl (by decide) (by decide)
    rfl⟩

end Calldata

end Mock
