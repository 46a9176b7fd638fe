import CotServer.Model.Redis.Account
import CotServer.Theory.Post

/-!
# What `initExternalAccount` gives back

`resolve` is the account that a process has for a key: the one in its map, or else the one in Redis.
A call of `initExternalAccount` gives back what the key resolves to, and makes a new account only
where there is none. What has been resolved stays so.
-/

namespace CotServer

open Async Account

variable (env : AccountEnv) (w : Worker)

/-- The account in the map of the process, or else the one that the value in Redis stands for. -/
def AccountStore.resolve (s : AccountStore) (chainName : ExternalChainName) (assetType : JsString) :
    Option (Except Err WalletAccount) :=
  match s.externalkeypairMap w chainName assetType with
  | some account => some (.ok account)
  | none =>
    let redisValue := s.redis (getAccountKey chainName assetType)
    if truthy redisValue then
      match env.asymmetricDecrypt (orUndefined redisValue) env.clientPublicKey env.secretKey with
      | none => some (.error (.error (js "decrypt fail")))
      | some secret => some (env.transformAccount chainName secret)
    else none

/-- Every new mnemonic has an account on the chain. -/
def AccountEnv.Derives (chainName : ExternalChainName) : Prop :=
  ∀ n, ∃ account, env.transformAccount chainName (env.generateMnemonic n) = .ok account

/-- The key does not resolve to an error. -/
def AccountStore.Resolvable (s : AccountStore) (chainName : ExternalChainName)
    (assetType : JsString) : Prop :=
  ∀ e, s.resolve env w chainName assetType ≠ some (.error e)

/-- What a process does to the accounts. -/
structure AccountsGrow (s t : AccountStore) : Prop where
  others : ∀ w', w' ≠ w → t.externalkeypairMap w' = s.externalkeypairMap w'
  resolve : ∀ chainName assetType x, s.resolve env w chainName assetType = some x →
    t.resolve env w chainName assetType = some x
  resolvable : ∀ chainName assetType, env.Derives chainName →
    s.Resolvable env w chainName assetType → t.Resolvable env w chainName assetType

/-- The answers to a call on the accounts; it can fail if `E` allows it. -/
def AccountEnv.answers (E : Prop) (op : AccountOp) (s : AccountStore) (r : Except Err op.Ans)
    (s' : AccountStore) : Prop :=
  ∃ choice, (choice ≠ .done → E) ∧ op.answer env choice s = some (r, s')

variable {env w} {E : Prop} {s t u : AccountStore} {chainName : ExternalChainName}
  {assetType : JsString}

theorem setMap_externalkeypairMap {account : WalletAccount} {chainName' : ExternalChainName}
    {assetType' : JsString} :
    (setMap w chainName assetType account s).externalkeypairMap w chainName' assetType' =
      if chainName' = chainName ∧ assetType' = assetType then some account
      else s.externalkeypairMap w chainName' assetType' := by
  unfold setMap
  by_cases hc : chainName' = chainName
  · by_cases ha : assetType' = assetType
    · simp [hc, ha]
    · simp [hc, ha, Function.update_of_ne]
  · simp [hc, Function.update_of_ne]

namespace AccountsGrow

theorem refl (s : AccountStore) : AccountsGrow env w s s :=
  ⟨fun _ _ => rfl, fun _ _ _ h => h, fun _ _ _ h => h⟩

theorem trans (s t u : AccountStore) (h : AccountsGrow env w s t) (h' : AccountsGrow env w t u) :
    AccountsGrow env w s u :=
  ⟨fun w' hw => (h'.others w' hw).trans (h.others w' hw),
    fun chainName assetType x hx => h'.resolve _ _ x (h.resolve chainName assetType x hx),
    fun chainName assetType hd hs => h'.resolvable _ _ hd (h.resolvable chainName assetType hd hs)⟩

/-- A mnemonic has been drawn. -/
theorem generated : AccountsGrow env w s { s with generated := s.generated + 1 } :=
  ⟨fun _ _ => rfl, fun _ _ _ h => h, fun _ _ _ h => h⟩

/-- A new mnemonic is stored under a free key. -/
theorem setKeyValue {keyName : JsString} {nonce n : Nat} (hfree : truthy (s.redis keyName) = false) :
    AccountsGrow env w s { s with redis := Function.update s.redis keyName (some
      (env.asymmetricEncrypt nonce (env.generateMnemonic n) env.clientPublicKey env.secretKey)) } := by
  refine ⟨fun _ _ => rfl, fun chainName assetType x hx => ?_, fun chainName assetType hd hs => ?_⟩
  · unfold AccountStore.resolve at hx ⊢
    by_cases hkey : getAccountKey chainName assetType = keyName
    · simp only [hkey, hfree] at hx
      split at hx
      · next account hmap => simpa [hmap] using hx
      · cases hx
    · simpa [Function.update_of_ne hkey] using hx
  · intro e he
    by_cases hkey : getAccountKey chainName assetType = keyName
    · obtain ⟨account, haccount⟩ := hd n
      unfold AccountStore.resolve at he
      simp only [hkey, Function.update_self, orUndefined, Option.getD_some, env.decrypt_encrypt,
        haccount] at he
      split at he
      · cases he
      · split at he <;> cases he
    · refine hs e ?_
      unfold AccountStore.resolve at he ⊢
      simpa [Function.update_of_ne hkey] using he

/-- The account that a key resolves to is put into the map. -/
theorem setMap {account : WalletAccount}
    (h : ∀ x, s.resolve env w chainName assetType = some x → x = .ok account) :
    AccountsGrow env w s (setMap w chainName assetType account s) := by
  have hresolve : ∀ chainName' assetType',
      (Account.setMap w chainName assetType account s).resolve env w chainName' assetType' =
        if chainName' = chainName ∧ assetType' = assetType then some (.ok account)
        else s.resolve env w chainName' assetType' := by
    intro chainName' assetType'
    unfold AccountStore.resolve
    rw [setMap_externalkeypairMap]
    by_cases hkey : chainName' = chainName ∧ assetType' = assetType
    · rw [if_pos hkey, if_pos hkey]
    · rw [if_neg hkey, if_neg hkey]
      rfl
  refine ⟨fun w' hw => ?_, fun chainName' assetType' x hx => ?_, fun chainName' assetType' _ hs e => ?_⟩
  · exact Function.update_of_ne hw _ _
  · rw [hresolve]
    split
    · next heq =>
      obtain ⟨rfl, rfl⟩ := heq
      rw [h x hx]
    · exact hx
  · rw [hresolve]
    split
    · exact fun he => (nomatch he)
    · exact hs e

end AccountsGrow

theorem resolve_setMap {account : WalletAccount} :
    (setMap w chainName assetType account s).resolve env w chainName assetType =
      some (.ok account) := by
  simp [AccountStore.resolve, setMap]

/-! ## The awaited calls -/

theorem post_account_call {op : AccountOp} {K : op.Ans → AccountStore → Prop}
    (h : ∀ r t, op.answer env .done s = some (r, t) → Ends E (AccountsGrow env w) s K r t) :
    Post (env.answers E) (call op) s (Ends E (AccountsGrow env w) s K) := by
  refine post_call.2 fun r t hans => ?_
  obtain ⟨choice, hE, hans⟩ := hans
  cases choice with
  | done => exact h r t hans
  | fails e =>
    cases hans
    exact .of_error (.refl s) (hE (nomatch ·))

theorem post_getServerKeypair :
    Post (env.answers E) getServerKeypair s
      (Ends E (AccountsGrow env w) s fun secretKey t => secretKey = env.secretKey ∧ s = t) := by
  refine post_account_call fun r t hans => ?_
  cases hans
  exact .of_ok (.refl s) ⟨rfl, rfl⟩

theorem post_getKeyValue {keyName : JsString} :
    Post (env.answers E) (getKeyValue keyName) s
      (Ends E (AccountsGrow env w) s fun found t => found = s.redis keyName ∧ s = t) := by
  refine post_account_call fun r t hans => ?_
  cases hans
  exact .of_ok (.refl s) ⟨rfl, rfl⟩

/-- An account is derived from the secret, unless deriving it may fail. -/
theorem post_transformAccount {secret : JsString}
    (hE : E ∨ ∃ account, env.transformAccount chainName secret = .ok account) :
    Post (env.answers E) (transformAccount chainName secret) s
      (Ends E (AccountsGrow env w) s fun account t =>
        env.transformAccount chainName secret = .ok account ∧ s = t) := by
  refine post_account_call fun r t hans => ?_
  obtain ⟨rfl, rfl⟩ : env.transformAccount chainName secret = r ∧ s = t :=
    Prod.mk.inj (Option.some.inj hans)
  refine ⟨.refl s, fun account h => ⟨h, rfl⟩, fun e he => hE.resolve_right ?_⟩
  rintro ⟨account, h⟩
  exact absurd (h.symm.trans he) (nomatch ·)

/-! ## `initExternalAccount` -/

/-- What a call gives back is what the key resolves to from then on. -/
def Resolves (env : AccountEnv) (w : Worker) (chainName : ExternalChainName) (assetType : JsString)
    (account : WalletAccount) (s : AccountStore) : Prop :=
  s.resolve env w chainName assetType = some (.ok account)

/-- The account is put into the map and returned. -/
theorem post_setMap {account : WalletAccount}
    (h : ∀ x, s.resolve env w chainName assetType = some x → x = .ok account) :
    Post (env.answers E)
      (do update (setMap w chainName assetType account); return account) s
      (Ends E (AccountsGrow env w) s (Resolves env w chainName assetType)) :=
  post_bind.2 (post_update.2 (post_pure.2 (.of_ok (.setMap h) resolve_setMap)))

theorem post_generateMnemonic :
    Post (env.answers E) (generateMnemonic env) s (Ends E (AccountsGrow env w) s fun p t =>
      p = (s.generated, env.generateMnemonic s.generated) ∧
        t = { s with generated := s.generated + 1 }) :=
  post_bind.2 (post_store.2 (post_bind.2 (post_update.2 (post_pure.2
    (.of_ok .generated ⟨rfl, rfl⟩)))))

theorem post_initAccount (hE : E ∨ env.Derives chainName)
    (hfree : truthy (s.redis (getAccountKey chainName assetType)) = false)
    (hmap : s.externalkeypairMap w chainName assetType = none) :
    Post (env.answers E) (initAccount env w chainName assetType) s
      (Ends E (AccountsGrow env w) s (Resolves env w chainName assetType)) := by
  refine .bind AccountsGrow.trans post_getServerKeypair fun secretKey _ _ hkey => ?_
  obtain ⟨rfl, rfl⟩ := hkey
  refine .bind AccountsGrow.trans post_generateMnemonic fun p _ _ hp => ?_
  obtain ⟨rfl, rfl⟩ := hp
  refine .bind AccountsGrow.trans (K := fun _ t => t.redis (getAccountKey chainName assetType) =
      some (env.asymmetricEncrypt s.generated (env.generateMnemonic s.generated)
        env.clientPublicKey env.secretKey) ∧
      t.externalkeypairMap = s.externalkeypairMap) ?_ fun _ t _ ht => ?_
  · refine post_account_call fun r t hans => ?_
    cases hans
    exact .of_ok (.setKeyValue hfree) ⟨Function.update_self .., rfl⟩
  · refine .bind AccountsGrow.trans (post_transformAccount (hE.imp_right fun h => h _))
      fun account _ _ haccount => ?_
    obtain ⟨haccount, rfl⟩ := haccount
    refine post_setMap fun x hx => ?_
    -- the map has nothing yet, and Redis the mnemonic that was just written
    unfold AccountStore.resolve at hx
    simp only [ht.1, ht.2, hmap, orUndefined, Option.getD_some, env.decrypt_encrypt] at hx
    split at hx
    · exact (Option.some.inj hx).symm.trans haccount
    · cases hx

theorem post_initExternalAccount
    (hE : E ∨ env.Derives chainName ∧ s.Resolvable env w chainName assetType) :
    Post (env.answers E) (initExternalAccount env w chainName assetType) s
      (Ends E (AccountsGrow env w) s (Resolves env w chainName assetType)) := by
  refine .bind AccountsGrow.trans post_getServerKeypair fun secretKey _ _ hkey => ?_
  obtain ⟨rfl, rfl⟩ := hkey
  refine post_bind.2 (post_store.2 ?_)
  dsimp only
  cases hmap : s.externalkeypairMap w chainName assetType with
  | some account =>
    exact post_pure.2 (.of_ok (.refl s) (by simp [Resolves, AccountStore.resolve, hmap]))
  | none =>
    refine .bind AccountsGrow.trans post_getServerKeypair fun secretKey _ _ hkey => ?_
    obtain ⟨rfl, rfl⟩ := hkey
    refine .bind AccountsGrow.trans post_getKeyValue fun found _ _ hfound => ?_
    obtain ⟨rfl, rfl⟩ := hfound
    split
    · next hvalue =>
      have hresolve : ∀ x, (match env.asymmetricDecrypt
            (orUndefined (s.redis (getAccountKey chainName assetType))) env.clientPublicKey
            env.secretKey with
          | none => some (.error (.error (js "decrypt fail")))
          | some secret => some (env.transformAccount chainName secret)) = some x →
          s.resolve env w chainName assetType = some x := by
        intro x hx
        simpa [AccountStore.resolve, hmap, hvalue] using hx
      split
      · next hdecrypt =>
        rw [hdecrypt] at hresolve
        refine post_throw.2 (.of_error (.refl s) (hE.resolve_right fun h => ?_))
        exact h.2 _ (hresolve _ rfl)
      · next secret hdecrypt =>
        rw [hdecrypt] at hresolve
        refine .bind AccountsGrow.trans (post_transformAccount (hE.imp_right fun h => ?_))
          fun account _ _ haccount => ?_
        · cases hsecret : env.transformAccount chainName secret with
          | ok account => exact ⟨account, rfl⟩
          | error e => exact absurd (hresolve _ (congrArg some hsecret)) (h.2 e)
        · obtain ⟨haccount, rfl⟩ := haccount
          refine post_setMap fun x hx => ?_
          exact Option.some.inj (hx.symm.trans (hresolve _ (congrArg some haccount)))
    · next hvalue => exact post_initAccount (hE.imp_right And.left) (by simpa using hvalue) hmap

/-! ## `injectExternalAddress` -/

/-- The key pair that is sent stands for the account. -/
def AccountEnv.Injects (env : AccountEnv) (parseMnemonic : JsString → Except Err JsString)
    (chainName : ExternalChainName) (keypairStr : JsString) (account : WalletAccount) : Prop :=
  ∃ keypairText mnemonic,
    env.asymmetricDecrypt keypairStr env.clientPublicKey env.secretKey = some keypairText ∧
      parseMnemonic keypairText = .ok mnemonic ∧ env.transformAccount chainName mnemonic = .ok account

/-- A call that leaves the accounts as they are. -/
theorem post_account_read {op : AccountOp} {Q : Except Err op.Ans → AccountStore → Prop}
    (herror : ∀ e, Q (.error e) s) (h : ∀ r t, op.answer env .done s = some (r, t) → Q r t) :
    Post (env.answers E) (call op) s Q := by
  refine post_call.2 fun r t hans => ?_
  obtain ⟨choice, -, hans⟩ := hans
  cases choice with
  | done => exact h r t hans
  | fails e =>
    cases hans
    exact herror e

/-- An injection puts its account into the map, under a key that has none. -/
theorem post_injectExternalAddress {parseMnemonic : JsString → Except Err JsString}
    {keypairStr : JsString} :
    Post (env.answers E)
      (injectExternalAddress env w chainName assetType parseMnemonic keypairStr) s fun _ t =>
        t = s ∨ s.externalkeypairMap w chainName assetType = none ∧
          ∃ account, env.Injects parseMnemonic chainName keypairStr account ∧
            t = setMap w chainName assetType account s := by
  refine post_bind.2 (post_account_read (fun e => .inl rfl) fun r t hans => ?_)
  cases hans
  dsimp only
  split
  · exact post_pure.2 (.inl rfl)
  · next keypairText hdecrypt =>
    refine post_tryCatch.2 (post_bind.2 (post_settle.2 ?_))
    cases hparse : parseMnemonic keypairText with
    | error e => exact post_pure.2 (.inl rfl)
    | ok mnemonic =>
      refine post_bind.2 (post_account_read (fun e => post_pure.2 (.inl rfl)) fun r t hans => ?_)
      obtain ⟨rfl, rfl⟩ : env.transformAccount chainName mnemonic = r ∧ s = t :=
        Prod.mk.inj (Option.some.inj hans)
      cases haccount : env.transformAccount chainName mnemonic with
      | error e => exact post_pure.2 (.inl rfl)
      | ok account =>
        refine post_bind.2 (post_store.2 ?_)
        dsimp only
        split
        · exact post_pure.2 (.inl rfl)
        · next hnone =>
          refine post_bind.2 (post_update.2 (post_pure.2 (.inr ⟨by simpa using hnone, ?_⟩)))
          exact ⟨account, ⟨keypairText, mnemonic, hdecrypt, hparse, haccount⟩, rfl⟩

end CotServer
