import CotServer.Verify.Redis.Resolve

/-!
# Accounts that Redis gives back

A process puts an account into its map after Redis has got its mnemonic, or has read it from there.
So every account in a map is the one that Redis stands for, and a process that has lost its map
finds the same accounts again.
-/

namespace CotServer

open Async Account

variable (env : AccountEnv)

/-- The account that the value in Redis stands for. -/
def AccountStore.stored (s : AccountStore) (chainName : ExternalChainName) (assetType : JsString) :
    Option (Except Err WalletAccount) :=
  let redisValue := s.redis (getAccountKey chainName assetType)
  if truthy redisValue then
    match env.asymmetricDecrypt (orUndefined redisValue) env.clientPublicKey env.secretKey with
    | none => some (.error (.error (js "decrypt fail")))
    | some secret => some (env.transformAccount chainName secret)
  else none

/-- Every account in a map is the stored one. -/
def AccountStore.Backed (s : AccountStore) : Prop :=
  ∀ w chainName assetType account, s.externalkeypairMap w chainName assetType = some account →
    s.stored env chainName assetType = some (.ok account)

/-- An encrypted message is never empty. -/
def AccountEnv.Encrypts : Prop :=
  ∀ nonce data, env.asymmetricEncrypt nonce data env.clientPublicKey env.secretKey ≠ []

/-- Values stay in Redis, and the accounts in the maps stay the stored ones. -/
structure RedisGrows (s t : AccountStore) : Prop where
  redis : ∀ keyName, truthy (s.redis keyName) = true → t.redis keyName = s.redis keyName
  backed : s.Backed env → t.Backed env

variable {env} {w : Worker} {E : Prop} {s t u : AccountStore} {chainName : ExternalChainName}
  {assetType : JsString}

theorem resolve_of_empty (h : s.externalkeypairMap w chainName assetType = none) :
    s.resolve env w chainName assetType = s.stored env chainName assetType := by
  simp only [AccountStore.resolve, h]
  rfl

/-- What a process resolves a key to is stored. -/
theorem AccountStore.Backed.stored {account : WalletAccount} (h : s.Backed env)
    (hresolves : Resolves env w chainName assetType account s) :
    s.stored env chainName assetType = some (.ok account) := by
  cases hmap : s.externalkeypairMap w chainName assetType with
  | none =>
    rw [← resolve_of_empty hmap]
    exact hresolves
  | some account' =>
    have hresolves' : s.resolve env w chainName assetType = some (.ok account') := by
      simp [AccountStore.resolve, hmap]
    have hsame : account = account' :=
      Except.ok.inj (Option.some.inj (hresolves.symm.trans hresolves'))
    rw [hsame]
    exact h w chainName assetType account' hmap

/-- What is stored stays so while its value does. -/
theorem stored_of_redis {x : Except Err WalletAccount}
    (h : ∀ keyName, truthy (s.redis keyName) = true → t.redis keyName = s.redis keyName)
    (hs : s.stored env chainName assetType = some x) :
    t.stored env chainName assetType = some x := by
  have htruthy : truthy (s.redis (getAccountKey chainName assetType)) = true := by
    by_contra hfree
    simp [AccountStore.stored, hfree] at hs
  unfold AccountStore.stored at hs ⊢
  rw [h _ htruthy]
  exact hs

/-! ## What a process does to Redis -/

namespace RedisGrows

theorem refl (s : AccountStore) : RedisGrows env s s := ⟨fun _ _ => rfl, fun h => h⟩

theorem trans (s t u : AccountStore) (h : RedisGrows env s t) (h' : RedisGrows env t u) :
    RedisGrows env s u := by
  refine ⟨?_, fun hs => h'.backed (h.backed hs)⟩
  intro keyName hs
  have ht := h.redis keyName hs
  rw [← ht] at hs
  exact (h'.redis keyName hs).trans ht

/-- A mnemonic has been drawn. -/
theorem generated : RedisGrows env s { s with generated := s.generated + 1 } :=
  ⟨fun _ _ => rfl, fun h => h⟩

/-- A value is stored under a free key. -/
theorem setKeyValue {keyName value : JsString} (hfree : truthy (s.redis keyName) = false) :
    RedisGrows env s { s with redis := Function.update s.redis keyName (some value) } := by
  have hredis : ∀ keyName', truthy (s.redis keyName') = true →
      Function.update s.redis keyName (some value) keyName' = s.redis keyName' := by
    intro keyName' htruthy
    apply Function.update_of_ne
    rintro rfl
    rw [hfree] at htruthy
    cases htruthy
  refine ⟨hredis, ?_⟩
  intro hs w chainName assetType account hmap
  exact stored_of_redis hredis (hs w chainName assetType account hmap)

/-- The stored account is put into the map. -/
theorem setMap {account : WalletAccount}
    (h : s.stored env chainName assetType = some (.ok account)) :
    RedisGrows env s (setMap w chainName assetType account s) := by
  refine ⟨fun _ _ => rfl, ?_⟩
  intro hs w' chainName' assetType' account' hmap
  by_cases hw : w' = w
  · subst hw
    rw [setMap_externalkeypairMap] at hmap
    split at hmap
    · next hkey =>
      obtain ⟨rfl, rfl⟩ := hkey
      cases hmap
      exact h
    · exact hs w' chainName' assetType' account' hmap
  · simp only [Account.setMap, Function.update_of_ne hw] at hmap
    exact hs w' chainName' assetType' account' hmap

end RedisGrows

/-- A call that leaves the accounts as they are, or fails. -/
theorem post_reads {op : AccountOp} {K : op.Ans → Prop}
    (h : ∀ r t, op.answer env .done s = some (r, t) → s = t ∧ ∀ a, r = .ok a → K a) :
    Post (env.answers E) (call op) s (Ends True Eq s fun a _ => K a) := by
  refine post_call.2 fun r t hans => ?_
  obtain ⟨choice, -, hans⟩ := hans
  cases choice with
  | done =>
    obtain ⟨rfl, hK⟩ := h r t hans
    exact ⟨rfl, hK, fun _ _ => trivial⟩
  | fails e =>
    cases hans
    exact .of_error rfl trivial

theorem post_reads_secretKey : Post (env.answers E) getServerKeypair s
    (Ends True Eq s fun secretKey _ => secretKey = env.secretKey) := by
  refine post_reads fun r t hans => ?_
  cases hans
  exact ⟨rfl, fun a h => (Except.ok.inj h).symm⟩

theorem post_reads_value {keyName : JsString} : Post (env.answers E) (getKeyValue keyName) s
    (Ends True Eq s fun found _ => found = s.redis keyName) := by
  refine post_reads fun r t hans => ?_
  cases hans
  exact ⟨rfl, fun a h => (Except.ok.inj h).symm⟩

theorem post_reads_account {secret : JsString} :
    Post (env.answers E) (transformAccount chainName secret) s
      (Ends True Eq s fun account _ => env.transformAccount chainName secret = .ok account) := by
  refine post_reads fun r t hans => ?_
  obtain ⟨rfl, rfl⟩ : env.transformAccount chainName secret = r ∧ s = t :=
    Prod.mk.inj (Option.some.inj hans)
  exact ⟨rfl, fun _ h => h⟩

/-- The account of the stored secret is derived and put into the map. -/
theorem post_deriveStored {secret : JsString}
    (h : s.stored env chainName assetType = some (env.transformAccount chainName secret)) :
    Post (env.answers E) (do
      let account ← transformAccount chainName secret
      update (setMap w chainName assetType account)
      return account) s fun _ t => RedisGrows env s t := by
  refine post_reads_account.seq (fun e t hst _ => hst ▸ .refl s) fun account t hst haccount => ?_
  subst hst
  rw [haccount] at h
  exact post_bind.2 (post_update.2 (post_pure.2 (.setMap h)))

theorem post_initAccount_redis (hencrypts : env.Encrypts)
    (hfree : truthy (s.redis (getAccountKey chainName assetType)) = false) :
    Post (env.answers E) (initAccount env w chainName assetType) s
      fun _ t => RedisGrows env s t := by
  refine post_reads_secretKey.seq (fun e t hst _ => hst ▸ .refl s) fun secretKey t hst hkey => ?_
  subst hst hkey
  refine post_bind.2 (post_bind.2 (post_store.2 (post_bind.2 (post_update.2 (post_pure.2 ?_)))))
  refine post_bind.2 (post_call.2 fun r t hans => ?_)
  obtain ⟨choice, -, hans⟩ := hans
  cases choice with
  | fails e =>
    cases hans
    exact .generated
  | done =>
    cases hans
    -- Redis has the mnemonic before the map gets its account
    refine (post_deriveStored ?_).mono fun _ t h =>
      .trans s _ t .generated (.trans _ _ t (.setKeyValue hfree) h)
    have htruthy : truthy (some (env.asymmetricEncrypt s.generated
        (env.generateMnemonic s.generated) env.clientPublicKey env.secretKey)) = true := by
      simpa [truthy] using hencrypts s.generated (env.generateMnemonic s.generated)
    simp only [AccountStore.stored, Function.update_self, htruthy, orUndefined, Option.getD_some,
      env.decrypt_encrypt, if_true]

/-- `initExternalAccount` changes no value in Redis, and keeps the maps backed. -/
theorem post_initExternalAccount_redis (hencrypts : env.Encrypts) :
    Post (env.answers E) (initExternalAccount env w chainName assetType) s
      fun _ t => RedisGrows env s t := by
  refine post_reads_secretKey.seq (fun e t hst _ => hst ▸ .refl s) fun secretKey t hst hkey => ?_
  subst hst hkey
  refine post_bind.2 (post_store.2 ?_)
  dsimp only
  cases hmap : s.externalkeypairMap w chainName assetType with
  | some account => exact post_pure.2 (.refl s)
  | none =>
    refine post_reads_secretKey.seq (fun e t hst _ => hst ▸ .refl s) fun secretKey t hst hkey => ?_
    subst hst hkey
    refine post_reads_value.seq (fun e t hst _ => hst ▸ .refl s) fun found t hst hfound => ?_
    subst hst hfound
    split
    · next hvalue =>
      split
      · exact post_throw.2 (.refl s)
      · next secret hdecrypt =>
        refine post_deriveStored ?_
        simp only [AccountStore.stored, hvalue, hdecrypt, if_true]
    · next hvalue => exact post_initAccount_redis hencrypts (by simpa using hvalue)

end CotServer
