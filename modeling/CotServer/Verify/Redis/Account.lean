import CotServer.Model.Redis.Account
import CotServer.Model.Sample
import CotServer.Theory.RelyGuarantee

/-!
# One secret for each external account

A call that finds no value in Redis generates a mnemonic and writes it, without looking again. As
long as every write finds the key still empty, all calls in all workers return the secret that is
stored, whatever their interleaving. Two calls that both found the key empty both write, and the
account of the first is lost.
-/

namespace CotServer

open Async Account

variable (env : AccountEnv) (chainName : ExternalChainName) (assetType : JsString)

/-- The value in Redis decrypts to this secret. -/
def AccountStore.Holds (s : AccountStore) (secret : JsString) : Prop :=
  ∃ value, s.redis (getAccountKey chainName assetType) = some value ∧
    env.asymmetricDecrypt value env.clientPublicKey env.secretKey = some secret

/-- Every account in a map, and every account returned, has the stored secret. -/
structure AccountInv (s : AccountStore) : Prop where
  map : ∀ w account, s.externalkeypairMap w chainName assetType = some account →
    s.Holds env chainName assetType account.secret
  returned : ∀ account ∈ s.returned, s.Holds env chainName assetType account.secret

/-- A stored value stays. -/
def AccountRel (s s' : AccountStore) : Prop :=
  ∀ value, s.redis (getAccountKey chainName assetType) = some value →
    s'.redis (getAccountKey chainName assetType) = some value

/-- A value is written only while the key is empty. -/
def writesOnce : AccountStore → Action AccountOp.Ans Err Worker AccountChoice → Bool
  | s, .answer (.setKeyValue keyName _) .done => (s.redis keyName).isNone
  | _, _ => true

/-- Accounts and the stored secret. -/
def accountLogic : Logic (accountProgram env chainName assetType) where
  Inv := AccountInv env chainName assetType
  Rel := AccountRel chainName assetType
  Allowed s a := writesOnce s a = true
  refl _ _ h := h
  trans h h' value hv := h' value (h value hv)

variable {env chainName assetType}

theorem AccountStore.Holds.later {s s' : AccountStore} {secret : JsString}
    (h : s.Holds env chainName assetType secret) (hR : AccountRel chainName assetType s s') :
    s'.Holds env chainName assetType secret := by
  obtain ⟨value, hvalue, hdecrypt⟩ := h
  exact ⟨value, hR value hvalue, hdecrypt⟩

/-- A derived account keeps its secret. -/
theorem transformAccount_secret {secret : JsString} {account : WalletAccount}
    (h : env.transformAccount chainName secret = .ok account) : account.secret = secret := by
  unfold AccountEnv.transformAccount at h
  split at h
  · cases hk : env.fromPhrase secret <;> rw [hk] at h <;> cases h
    rfl
  · cases hk : env.fromPhrase secret <;> rw [hk] at h <;> cases h
    rfl
  · cases hk : env.recoverAccount secret <;> rw [hk] at h <;> cases h
    rfl
  · cases h

/-! ## What the awaited calls give back -/

variable {s : AccountStore} {w : Worker}

/-- A call that leaves the store alone, and a fact about its answer that lasts. -/
theorem triple_read {op : AccountOp} {Q : op.Ans → AccountStore → Prop}
    (hI : AccountInv env chainName assetType s)
    (hread : ∀ o t r u, op.answer env o t = some (r, u) → u = t ∧ ∀ a, r = .ok a → Q a t)
    (hlater : ∀ a t u, AccountRel chainName assetType t u → Q a t → Q a u) :
    (accountLogic env chainName assetType).Triple (call op) s Q := by
  refine Logic.triple_call (G := fun r t => ∀ a, r = .ok a → Q a t) hI ?_ ?_
  · intro t hR hI o r u hans _
    obtain ⟨rfl, hQ⟩ := hread o t r u hans
    exact ⟨Logic.Seg.refl hI, hQ⟩
  · intro a t u hG hR _ _
    exact hlater a t u hR (hG a rfl)

theorem triple_getServerKeypair (hI : AccountInv env chainName assetType s) :
    (accountLogic env chainName assetType).Triple getServerKeypair s
      fun secretKey _ => secretKey = env.secretKey := by
  refine triple_read hI (fun o t r u hans => ?_) fun _ _ _ _ h => h
  cases o <;> cases hans
  · exact ⟨rfl, fun _ h => (nomatch h)⟩
  · exact ⟨rfl, fun _ h => (Except.ok.inj h).symm⟩

theorem triple_getKeyValue (hI : AccountInv env chainName assetType s) :
    (accountLogic env chainName assetType).Triple (getKeyValue (getAccountKey chainName assetType))
      s fun found t => ∀ value, found = some value →
        t.redis (getAccountKey chainName assetType) = some value := by
  refine triple_read hI (fun o t r u hans => ?_) fun _ _ _ hR h value hv => hR value (h value hv)
  cases o <;> cases hans
  · exact ⟨rfl, fun _ h => (nomatch h)⟩
  · refine ⟨rfl, fun found h value hv => ?_⟩
    rw [Except.ok.inj h, hv]

theorem triple_transformAccount {secret : JsString} (hI : AccountInv env chainName assetType s) :
    (accountLogic env chainName assetType).Triple (transformAccount chainName secret) s
      fun account _ => account.secret = secret := by
  refine triple_read hI (fun o t r u hans => ?_) fun _ _ _ _ h => h
  cases o with
  | fails e =>
    cases hans
    exact ⟨rfl, fun _ h => (nomatch h)⟩
  | done =>
    injection hans with hans
    have hr : env.transformAccount chainName secret = r := congrArg Prod.fst hans
    have hu : t = u := congrArg Prod.snd hans
    exact ⟨hu.symm, fun account h => transformAccount_secret (hr.trans h)⟩

/-- The first write is the only one. -/
theorem triple_setKeyValue {value : JsString} (hI : AccountInv env chainName assetType s) :
    (accountLogic env chainName assetType).Triple
      (setKeyValue (getAccountKey chainName assetType) value) s
      fun _ t => t.redis (getAccountKey chainName assetType) = some value := by
  refine Logic.triple_call (G := fun r t => r = .ok () →
    t.redis (getAccountKey chainName assetType) = some value) hI ?_ ?_
  · intro t _ hI o r u hans hall
    cases o with
    | fails e =>
      cases hans
      exact ⟨Logic.Seg.refl hI, fun h => (nomatch h)⟩
    | done =>
      cases hans
      have hempty : t.redis (getAccountKey chainName assetType) = none :=
        Option.isNone_iff_eq_none.1 hall
      have hnone : ∀ secret, ¬ t.Holds env chainName assetType secret := by
        intro secret h
        obtain ⟨v, hv, _⟩ := h
        cases hempty.symm.trans hv
      refine ⟨⟨⟨fun w account ha => ?_, fun account ha => ?_⟩, fun v hv => ?_⟩, fun _ => ?_⟩
      · exact absurd (hI.map w account ha) (hnone _)
      · exact absurd (hI.returned account ha) (hnone _)
      · cases hempty.symm.trans hv
      · exact Function.update_self ..
  · intro _ t u hG hR _ _
    exact hR value (hG rfl)

/-! ## The calls -/

variable (env chainName assetType) in
/-- The account that a function returns has the stored secret. -/
def Stored (account : WalletAccount) (s : AccountStore) : Prop :=
  s.Holds env chainName assetType account.secret

/-- Deriving the account of the stored secret and keeping it in the map. -/
theorem triple_transformAndSet {secret : JsString} (hI : AccountInv env chainName assetType s)
    (hsecret : s.Holds env chainName assetType secret) :
    (accountLogic env chainName assetType).Triple (do
        let account ← transformAccount chainName secret
        update (setMap w chainName assetType account)
        return account) s (Stored env chainName assetType) := by
  refine (triple_transformAccount hI).bind fun account t hR hI haccount => ?_
  have hholds : Stored env chainName assetType account t := by
    unfold Stored
    rw [haccount]
    exact hsecret.later hR
  have hI' : AccountInv env chainName assetType (setMap w chainName assetType account t) := by
    refine ⟨fun w' account' h => ?_, hI.returned⟩
    by_cases hw : w' = w
    · subst hw
      simp only [setMap, Function.update_self, Option.some.injEq] at h
      exact h ▸ hholds
    · simp only [setMap, Function.update_of_ne hw] at h
      exact hI.map w' account' h
  refine (Logic.triple_update ⟨hI', fun _ hv => hv⟩ hholds).bind
    (Q := fun _ => Stored env chainName assetType account) fun _ u _ hI hstored => ?_
  exact Logic.triple_pure hI hstored

theorem triple_generateMnemonic (hI : AccountInv env chainName assetType s) :
    (accountLogic env chainName assetType).Triple (generateMnemonic env) s fun _ _ => True := by
  refine Logic.triple_store ?_
  refine (Logic.triple_update ?_ trivial).bind (Q := fun _ _ => True) fun _ t _ hI _ =>
    Logic.triple_pure hI trivial
  -- drawing the mnemonic changes neither a map nor Redis
  exact ⟨⟨hI.map, hI.returned⟩, fun _ hv => hv⟩

theorem triple_initAccount (hI : AccountInv env chainName assetType s) :
    (accountLogic env chainName assetType).Triple (initAccount env w chainName assetType) s
      (Stored env chainName assetType) := by
  refine (triple_getServerKeypair hI).bind fun secretKey t _ hI hkey => ?_
  subst hkey
  refine (triple_generateMnemonic hI).bind fun mnemonic t _ hI _ => ?_
  refine (triple_setKeyValue hI).bind fun _ u _ hI hvalue => ?_
  exact triple_transformAndSet hI ⟨_, hvalue, env.decrypt_encrypt _ _⟩

theorem triple_initExternalAccount (hI : AccountInv env chainName assetType s) :
    (accountLogic env chainName assetType).Triple (initExternalAccount env w chainName assetType) s
      (Stored env chainName assetType) := by
  refine (triple_getServerKeypair hI).bind fun _ t _ hI _ => ?_
  refine Logic.triple_store ?_
  split
  · next account hmap => exact Logic.triple_pure hI (hI.map w account hmap)
  refine (triple_getServerKeypair hI).bind fun secretKey u _ hI hkey => ?_
  subst hkey
  refine (triple_getKeyValue hI).bind fun found v _ hI hfound => ?_
  split
  · next htruthy =>
    obtain ⟨value, rfl⟩ : ∃ value, found = some value := by
      cases found with
      | none => cases htruthy
      | some value => exact ⟨value, rfl⟩
    split
    · exact Logic.triple_throw hI
    · next secret hdecrypt =>
      exact triple_transformAndSet hI ⟨value, hfound value rfl, hdecrypt⟩
  · exact triple_initAccount hI

/-- A call keeps the invariant, and what it returns has the stored secret. -/
theorem triple_initExternalAccountCall (hI : AccountInv env chainName assetType s) :
    (accountLogic env chainName assetType).Triple
      (initExternalAccountCall env w chainName assetType) s fun _ _ => True := by
  refine (triple_initExternalAccount hI).bind fun account t _ hI hstored => ?_
  refine Logic.triple_update ⟨⟨hI.map, fun a ha => ?_⟩, fun _ hv => hv⟩ trivial
  rcases List.mem_cons.1 ha with rfl | ha
  · exact hstored
  · exact hI.returned a ha

/-- In every run in which a value is only written while the key is empty, all accounts returned so
far have one secret, and the value in Redis decrypts to it. -/
theorem initExternalAccount_secret (env : AccountEnv) (chainName : ExternalChainName)
    (assetType : JsString) {ls : List (Label Worker AccountChoice)}
    {c : Pool AccountStore AccountOp.Ans Err Worker}
    (hrun : (accountProgram env chainName assetType).system.run ⟨{}, []⟩ ls = some c)
    (hwrites : (accountProgram env chainName assetType).system.Meets
      (Program.Allows fun s a => writesOnce s a = true) ⟨{}, []⟩ ls) :
    (∀ account ∈ c.store.returned, c.store.Holds env chainName assetType account.secret) ∧
      ∀ account ∈ c.store.returned, ∀ account' ∈ c.store.returned,
        account.secret = account'.secret := by
  have hinit : AccountInv env chainName assetType {} :=
    ⟨fun _ _ h => (nomatch h), fun _ h => absurd h List.not_mem_nil⟩
  have hpool : (accountLogic env chainName assetType).PoolOk c := by
    refine (accountLogic env chainName assetType).sound ?_ (Logic.PoolOk.idle hinit) hwrites hrun
    rintro w s hI - t p ⟨⟩
    exact (triple_initExternalAccountCall hI).start (Logic.Seg.refl hI)
  refine ⟨hpool.inv.returned, fun account h account' h' => ?_⟩
  obtain ⟨value, hvalue, hdecrypt⟩ := hpool.inv.returned account h
  obtain ⟨value', hvalue', hdecrypt'⟩ := hpool.inv.returned account' h'
  cases hvalue.symm.trans hvalue'
  exact Option.some.inj (hdecrypt.symm.trans hdecrypt')

/-! ## Two runs -/

namespace Sample

/-- A call in worker 0, and then one in worker 1, which reads what the first has written. -/
def oneAfterAnother : List (Label Worker AccountChoice) :=
  .event 0 :: Program.awaits 0 .done 6 ++ .event 1 :: Program.awaits 0 .done 4

/-- Both calls read Redis before either writes. -/
def bothReadFirst : List (Label Worker AccountChoice) :=
  .event 0 :: .event 1 :: Program.awaits 0 .done 3 ++ Program.awaits 1 .done 3 ++
    Program.awaits 0 .done 3 ++ Program.awaits 0 .done 3

end Sample

/-- One call after another, in two workers: both return the first mnemonic. -/
theorem initExternalAccount_secret_oneAfterAnother :
    ∃ c, (accountProgram Sample.accountEnv .ETH (js "USDT")).system.run ⟨{}, []⟩
        Sample.oneAfterAnother = some c ∧ c.store.returned.length = 2 ∧
      (∀ account ∈ c.store.returned,
        c.store.Holds Sample.accountEnv .ETH (js "USDT") account.secret) ∧
      ∀ account ∈ c.store.returned, ∀ account' ∈ c.store.returned,
        account.secret = account'.secret := by
  obtain ⟨c, hrun, hlength⟩ : ∃ c, (accountProgram Sample.accountEnv .ETH (js "USDT")).system.run
      ⟨{}, []⟩ Sample.oneAfterAnother = some c ∧ c.store.returned.length = 2 := ⟨_, rfl, rfl⟩
  exact ⟨c, hrun, hlength, initExternalAccount_secret Sample.accountEnv .ETH (js "USDT") hrun
    (Program.meets_of_checks _ rfl)⟩

/-- When both calls read Redis before either writes, they return different secrets. -/
theorem initExternalAccount_two_secrets :
    ¬ ∀ (env : AccountEnv) (chainName : ExternalChainName) (assetType : JsString)
      (ls : List (Label Worker AccountChoice)) (c : Pool AccountStore AccountOp.Ans Err Worker),
      (accountProgram env chainName assetType).system.run ⟨{}, []⟩ ls = some c →
        ∀ account ∈ c.store.returned, ∀ account' ∈ c.store.returned,
          account.secret = account'.secret := by
  intro h
  obtain ⟨c, hrun, hreturned⟩ : ∃ c, (accountProgram Sample.accountEnv .ETH (js "USDT")).system.run
      ⟨{}, []⟩ Sample.bothReadFirst = some c ∧
        c.store.returned.map (·.secret) = [js "mnemonic+", js "mnemonic"] := ⟨_, rfl, rfl⟩
  have hsame := h Sample.accountEnv .ETH (js "USDT") Sample.bothReadFirst c hrun
  obtain ⟨a, ha, hsecret⟩ := List.mem_map.1 (hreturned ▸ List.mem_cons_self)
  obtain ⟨a', ha', hsecret'⟩ :=
    List.mem_map.1 (hreturned ▸ List.mem_cons_of_mem _ (List.mem_singleton_self (js "mnemonic")))
  exact absurd (hsecret.symm.trans ((hsame a ha a' ha').trans hsecret')) (by decide)

end CotServer
