import CotServer.Model.Sample
import CotServer.Verify.Config.Stored

/-!
# Deposit addresses and the accounts that pay out

`setRecharge` stores the addresses that it is given, and `injectExternalAddress` gives the order
worker an account without looking at the config. So for these two the addresses have to agree
already; `setConfig` and a restart restore the agreement, unless an account has been injected into
the order worker or a call fails.
-/

namespace CotServer

open Async

variable (env : PlatformEnv)

/-- The address is that of the account that pays out, if there is one. -/
def PlatformStore.Pays (s : PlatformStore) (chainName : ExternalChainName)
    (assetType address : JsString) : Prop :=
  ∀ account, Account.forceGetExternalKeypair orderWorker chainName assetType s.accounts =
    .ok account → address = env.depositAddress chainName account

/-- Every deposit address is that of the account that pays out. -/
def PlatformStore.Matches (s : PlatformStore) : Prop :=
  ∀ e ∈ s.config.entries, s.Pays env e._chain e.item.assetType e.item.depositAddress

/-! ## When a step keeps them so -/

/-- What the key resolves to in the process has the address. -/
def PlatformStore.ResolvesTo (s : PlatformStore) (w : Worker) (chainName : ExternalChainName)
    (assetType address : JsString) : Prop :=
  ∃ x, s.accounts.resolve env.account w chainName assetType = some x ∧
    ∀ account, x = .ok account → address = env.depositAddress chainName account

/-- The stored entries of a key have the address of the account that is injected for it. -/
def PlatformStore.AgreesWith (s : PlatformStore) (chainName : ExternalChainName)
    (assetType keypairStr : JsString) : Prop :=
  ∀ account, env.account.Injects env.parseMnemonic chainName keypairStr account →
    ∀ e ∈ s.config.entries, e._chain = chainName → e.item.assetType = assetType →
      e.item.depositAddress = env.depositAddress chainName account

/-- The accounts that `onModuleInit` injects for `USDT`. -/
def testSecrets : List (ExternalChainName × JsString) :=
  [(.ETH, ConfigWriter.onModuleInit.testSecretETH), (.BSC, ConfigWriter.onModuleInit.testSecretBSC),
    (.TRON, ConfigWriter.onModuleInit.testSecretBSC)]

/-- The addresses that a step stores agree with the accounts that the order worker has, and the
accounts that it adds agree with the addresses that are stored. -/
def PlatformLabel.Agrees (s : PlatformStore) (l : PlatformLabel) : Prop :=
  match l.request with
  | .setConfig w encryptConfig => ∀ config, env.Requests encryptConfig config →
    ∀ e ∈ config.entries, ∀ account,
      Account.forceGetExternalKeypair orderWorker e._chain (env.assetType e._chain.toJs e.item)
        s.accounts = .ok account →
      s.ResolvesTo env w e._chain (env.assetType e._chain.toJs e.item)
        (env.depositAddress e._chain account)
  | .setRecharge _ rechargeConfig =>
    ConfigService.checkConfig env.config.verify rechargeConfig.properties = .ok () →
    ∀ e ∈ rechargeConfig.entries,
      s.Pays env e._chain (env.assetType e.chainName e.item) e.item.depositAddress
  | .injectExternalAddress chainName assetType keypairStr =>
    s.accounts.externalkeypairMap orderWorker chainName assetType = none →
      s.AgreesWith env chainName assetType keypairStr
  | .restart =>
    if env.config.dev then
      ∀ p ∈ testSecrets, s.AgreesWith env p.1 (js "USDT") (env.encryptData p.2)
    else
      let before := l.request.before s
      (¬ (∃ choice ∈ l.choices, choice.Fails) ∧ ∀ e ∈ s.config.entries,
        env.account.Derives e._chain ∧
          before.accounts.Resolvable env.account orderWorker e._chain e.item.assetType) ∨
      ∀ e ∈ s.config.entries,
        before.ResolvesTo env orderWorker e._chain e.item.assetType e.item.depositAddress

variable {env} {E : Prop} {w : Worker} {s t u : PlatformStore}

/-! ## Injections -/

variable (env) in
/-- The config and the accounts of the order worker stay, and what it gets has been injected for one
of the keys. -/
structure Injected (keys : List (ExternalChainName × JsString × JsString)) (s t : PlatformStore) :
    Prop where
  config : t.config = s.config
  held : ∀ chainName assetType account,
    s.accounts.externalkeypairMap orderWorker chainName assetType = some account →
      t.accounts.externalkeypairMap orderWorker chainName assetType = some account
  injected : ∀ chainName assetType account,
    t.accounts.externalkeypairMap orderWorker chainName assetType = some account →
      s.accounts.externalkeypairMap orderWorker chainName assetType = some account ∨
        ∃ keypairStr, (chainName, assetType, keypairStr) ∈ keys ∧
          env.account.Injects env.parseMnemonic chainName keypairStr account

variable {keys : List (ExternalChainName × JsString × JsString)}

theorem Injected.refl (s : PlatformStore) : Injected env keys s s :=
  ⟨rfl, fun _ _ _ h => h, fun _ _ _ h => .inl h⟩

theorem Injected.trans (s t u : PlatformStore) (h : Injected env keys s t)
    (h' : Injected env keys t u) : Injected env keys s u := by
  refine ⟨h'.config.trans h.config, fun chainName assetType account hs =>
    h'.held _ _ _ (h.held _ _ _ hs), fun chainName assetType account hu => ?_⟩
  obtain ht | hkey := h'.injected chainName assetType account hu
  · exact h.injected chainName assetType account ht
  · exact .inr hkey

theorem post_injectAddress {chainName : ExternalChainName} {assetType keypairStr : JsString}
    (hkey : (chainName, assetType, keypairStr) ∈ keys) :
    Post (env.answers True)
      (ConfigWriter.call orderWorker (.injectExternalAddress chainName assetType keypairStr)) s
      (Ends True (Injected env keys) s fun _ _ => True) := by
  refine post_call.2 fun r t hans => ⟨?_, fun _ _ => trivial, fun _ _ => trivial⟩
  obtain ⟨choice, -, hans⟩ := hans
  cases choice with
  | account choices =>
    obtain ⟨hconfig, hruns⟩ := runs_onPlatform (E := True) (fun _ => trivial) hans
    obtain heq | ⟨hnone, account, hinjects, heq⟩ := post_injectExternalAddress r t.accounts hruns
    · exact ⟨hconfig, fun _ _ _ h => heq ▸ h, fun _ _ _ h => .inl (heq ▸ h)⟩
    · have hmap : ∀ chainName' assetType',
          t.accounts.externalkeypairMap orderWorker chainName' assetType' =
            if chainName' = chainName ∧ assetType' = assetType then some account
            else s.accounts.externalkeypairMap orderWorker chainName' assetType' := by
        intro chainName' assetType'
        rw [heq, setMap_externalkeypairMap]
      refine ⟨hconfig, fun chainName' assetType' account' hs => ?_,
        fun chainName' assetType' account' ht => ?_⟩
      · rw [hmap, if_neg]
        · exact hs
        · rintro ⟨rfl, rfl⟩
          exact absurd (hnone.symm.trans hs) (nomatch ·)
      · rw [hmap] at ht
        split at ht
        · next hkey' =>
          obtain ⟨rfl, rfl⟩ := hkey'
          cases ht
          exact .inr ⟨keypairStr, hkey, hinjects⟩
        · exact .inl ht
  | fails _ | done | text _ | errors _ => cases hans

/-- The keys of `__testInjectAddress`. -/
def PlatformEnv.testKeys (env : PlatformEnv) : List (ExternalChainName × JsString × JsString) :=
  testSecrets.map fun p => (p.1, js "USDT", env.encryptData p.2)

theorem post_testInjectExternalAddress {chainName : ExternalChainName} {secret : JsString}
    (hsecret : (chainName, secret) ∈ testSecrets) :
    Post (env.answers True)
      (ConfigWriter.onModuleInit.testInjectExternalAddress orderWorker chainName secret) s
      (Ends True (Injected env env.testKeys) s fun _ _ => True) := by
  have hencrypt : Post (env.answers True) (ConfigWriter.call orderWorker (.encryptData secret)) s
      (Ends True Eq s fun text _ => text = env.encryptData secret) := by
    refine post_platform_read fun choice r t hans => ?_
    cases choice with
    | fails e => cases hans; exact ⟨rfl, .inl ⟨e, rfl, trivial⟩⟩
    | done => cases hans; exact ⟨rfl, .inr ⟨_, rfl, rfl⟩⟩
    | text _ | errors _ | account _ => cases hans
  refine (hencrypt.mono fun _ _ => .of_eq .refl).bind .trans fun text t _ htext => ?_
  refine (post_injectAddress ?_).bind .trans fun _ u _ _ => post_pure.2 (.of_ok (.refl u) trivial)
  exact htext ▸ List.mem_map.2 ⟨(chainName, secret), hsecret, rfl⟩

/-- A call of `__testInjectAddress` that is not about external accounts. -/
theorem post_other {op : ConfigOp} (h : ∀ choice r t,
    op.answerOnPlatform env orderWorker choice s = some (r, t) → s = t) :
    Post (env.answers True) (ConfigWriter.call orderWorker op) s
      (Ends True (Injected env env.testKeys) s fun _ _ => True) := by
  refine post_call.2 fun r t hans => ⟨?_, fun _ _ => trivial, fun _ _ => trivial⟩
  obtain ⟨choice, -, hans⟩ := hans
  exact h choice r t hans ▸ .refl s

theorem post_testInjectAddress :
    Post (env.answers True) (ConfigWriter.onModuleInit.testInjectAddress orderWorker) s
      (Ends True (Injected env env.testKeys) s fun _ _ => True) := by
  have hencrypt : ∀ data s, Post (env.answers True)
      (ConfigWriter.call orderWorker (.encryptData data)) s
      (Ends True (Injected env env.testKeys) s fun _ _ => True) := by
    refine fun data s => post_other fun choice r t hans => ?_
    cases choice <;> cases hans <;> rfl
  have hinject : ∀ accountType keypairStr s, Post (env.answers True)
      (ConfigWriter.call orderWorker (.injectRWAddress accountType keypairStr)) s
      (Ends True (Injected env env.testKeys) s fun _ _ => True) := by
    refine fun accountType keypairStr s => post_other fun choice r t hans => ?_
    cases choice <;> cases hans <;> rfl
  have hkey : Post (env.answers True) (ConfigWriter.call orderWorker .getServerPublicKey) s
      (Ends True (Injected env env.testKeys) s fun _ _ => True) := by
    refine post_other fun choice r t hans => ?_
    cases choice <;> cases hans <;> rfl
  refine hkey.bind .trans fun _ _ _ _ => (hencrypt _ _).bind .trans fun _ _ _ _ => ?_
  refine (hencrypt _ _).bind .trans fun _ _ _ _ => (hinject _ _ _).bind .trans fun _ _ _ _ => ?_
  refine (hinject _ _ _).bind .trans fun _ _ _ _ => ?_
  refine (post_testInjectExternalAddress (by simp [testSecrets])).bind .trans fun _ _ _ _ => ?_
  refine (post_testInjectExternalAddress (by simp [testSecrets])).bind .trans fun _ _ _ _ => ?_
  exact post_testInjectExternalAddress (by simp [testSecrets])

/-! ## Every run -/

theorem forceGetExternalKeypair_ok {chainName : ExternalChainName} {assetType : JsString}
    {s : AccountStore} {account : WalletAccount} :
    Account.forceGetExternalKeypair w chainName assetType s = .ok account ↔
      s.externalkeypairMap w chainName assetType = some account := by
  unfold Account.forceGetExternalKeypair
  split <;> simp_all

/-- What the process has in its map is what the key resolves to. -/
theorem resolve_of_map {chainName : ExternalChainName} {assetType : JsString} {s : AccountStore}
    {account : WalletAccount} (h : s.externalkeypairMap w chainName assetType = some account) :
    Resolves env.account w chainName assetType account s := by
  simp [Resolves, AccountStore.resolve, h]

/-- A step is a run of its function. -/
theorem platform_step {l : PlatformLabel} (h : (platform env).step s l = some t) :
    l.request.accepted = true ∧ ∃ r, (l.request.function env).Runs
      (env.answers (∃ choice ∈ l.choices, choice.Fails)) (l.request.before s) r t := by
  simp only [platform, Option.ite_none_right_eq_some, Option.map_eq_some_iff] at h
  obtain ⟨haccepted, ⟨r, t'⟩, hexec, rfl⟩ := h
  refine ⟨haccepted, r, (runs_of_exec_mem hexec).mono ?_⟩
  rintro c s a t ⟨choice, hmem, hans⟩
  exact ⟨choice, fun hfails => ⟨choice, hmem, hfails⟩, hans⟩

theorem PlatformEnv.answers.weaken {c : ConfigCall} {r : Except Err c.Ans}
    (h : env.answers E c s r t) : env.answers True c s r t := by
  obtain ⟨choice, -, hans⟩ := h
  exact ⟨choice, fun _ => trivial, hans⟩

theorem matches_setConfig {encryptConfig : JsString} (hw : w ≠ orderWorker)
    (hs : s.Matches env) {choices : List PlatformChoice}
    (hl : PlatformLabel.Agrees env s ⟨.setConfig w encryptConfig, choices⟩)
    (hgrow : AccountsGrow env.account w s.accounts t.accounts)
    (hstored : t.config = s.config ∨ ∃ config, env.Requests encryptConfig config ∧
      Stores (env.Deposits w fun e => env.assetType e._chain.toJs e.item) config.entries t) :
    t.Matches env := by
  intro e' he' account haccount
  -- the accounts of the order worker are the same
  have hheld : Account.forceGetExternalKeypair orderWorker e'._chain e'.item.assetType s.accounts =
      .ok account := by
    rw [forceGetExternalKeypair_ok] at haccount ⊢
    rwa [hgrow.others orderWorker hw.symm] at haccount
  obtain hconfig | ⟨config, hrequest, hstored⟩ := hstored
  · exact hs e' (hconfig ▸ he') account hheld
  · obtain ⟨e, he, -, hchain, htype, account', hresolve, haddress⟩ := hstored.mem he'
    dsimp only at htype
    rw [hchain, htype] at hheld
    obtain ⟨x, hx, hsame⟩ := hl config hrequest e he account hheld
    have hx' := hgrow.resolve _ _ _ hx
    rw [← htype] at hx'
    obtain rfl : x = .ok account' := Option.some.inj (hx'.symm.trans hresolve)
    rw [haddress, hchain]
    exact (hsame account' rfl).symm

theorem matches_setRecharge {rechargeConfig : RechargeObject} {choices : List PlatformChoice}
    (hs : s.Matches env) (hl : PlatformLabel.Agrees env s ⟨.setRecharge w rechargeConfig, choices⟩)
    (haccounts : t.accounts = s.accounts)
    (hstored : t.config = s.config ∨
      ConfigService.checkConfig env.config.verify rechargeConfig.properties = .ok () ∧
        Stores env.Typed rechargeConfig.entries t) : t.Matches env := by
  intro e' he' account haccount
  rw [haccounts] at haccount
  obtain hconfig | ⟨hcheck, hstored⟩ := hstored
  · exact hs e' (hconfig ▸ he') account haccount
  · obtain ⟨e, he, -, hchain, hitem⟩ := hstored.mem he'
    rw [hchain, hitem] at haccount
    rw [hchain, hitem]
    exact hl hcheck e he account haccount

/-- Injected accounts agree with the config. -/
theorem matches_injected (hs : s.Matches env) (hst : Injected env keys s t)
    (hagrees : ∀ chainName assetType keypairStr, (chainName, assetType, keypairStr) ∈ keys →
      s.accounts.externalkeypairMap orderWorker chainName assetType = none →
        s.AgreesWith env chainName assetType keypairStr) : t.Matches env := by
  intro e he account haccount
  rw [hst.config] at he
  rw [forceGetExternalKeypair_ok] at haccount
  cases hheld : s.accounts.externalkeypairMap orderWorker e._chain e.item.assetType with
  | some account' =>
    cases haccount.symm.trans (hst.held _ _ _ hheld)
    exact hs e he account (forceGetExternalKeypair_ok.2 hheld)
  | none =>
    obtain hs' | ⟨keypairStr, hkey, hinjects⟩ := hst.injected _ _ _ haccount
    · exact absurd (hheld.symm.trans hs') (nomatch ·)
    · exact hagrees _ _ _ hkey hheld account hinjects e he rfl rfl

theorem matches_onModuleInit (hgrow : AccountsGrow env.account orderWorker s.accounts t.accounts)
    (hstored : (∀ e ∈ s.config.entries, s.ResolvesTo env orderWorker e._chain e.item.assetType
        e.item.depositAddress) ∧ t.config = s.config ∨
      Stores (env.Deposits orderWorker fun e => e.item.assetType) s.config.entries t) :
    t.Matches env := by
  intro e' he' account haccount
  have hheld : Resolves env.account orderWorker e'._chain e'.item.assetType account t.accounts :=
    resolve_of_map (forceGetExternalKeypair_ok.1 haccount)
  obtain ⟨hresolves, hconfig⟩ | hstored := hstored
  · obtain ⟨x, hx, haddress⟩ := hresolves e' (hconfig ▸ he')
    obtain rfl : x = .ok account :=
      Option.some.inj ((hgrow.resolve _ _ _ hx).symm.trans hheld)
    exact haddress account rfl
  · obtain ⟨e, he, -, hchain, htype, account', hresolve, haddress⟩ := hstored.mem he'
    rw [hchain] at hheld
    cases hheld.symm.trans hresolve
    rw [haddress, hchain]

/-- **Step.** -/
theorem matches_step {l : PlatformLabel} (hs : s.Matches env) (hl : l.Agrees env s)
    (hstep : (platform env).step s l = some t) : t.Matches env := by
  obtain ⟨haccepted, r, hruns⟩ := platform_step hstep
  obtain ⟨request, choices⟩ := l
  have hruns' := hruns.mono fun _ _ _ _ => PlatformEnv.answers.weaken
  cases request with
  | setConfig w encryptConfig =>
    obtain ⟨hgrow, hstored⟩ := post_setConfig encryptConfig r t hruns'
    exact matches_setConfig (by simpa [PlatformRequest.accepted] using haccepted) hs hl hgrow hstored
  | setRecharge w rechargeConfig =>
    obtain ⟨haccounts, hstored⟩ := post_setRecharge rechargeConfig r t hruns'
    exact matches_setRecharge hs hl haccounts hstored
  | injectExternalAddress chainName assetType keypairStr =>
    have hpost : Post (env.answers True)
        (PlatformRequest.function env (.injectExternalAddress chainName assetType keypairStr)) s
        (Ends True (Injected env [(chainName, assetType, keypairStr)]) s fun _ _ => True) :=
      (post_injectAddress (List.mem_singleton.2 rfl)).bind .trans
        fun _ u _ _ => post_pure.2 (.of_ok (.refl u) trivial)
    refine matches_injected hs (hpost r t hruns').rel ?_
    intro chainName' assetType' keypairStr' hkey
    cases List.mem_singleton.1 hkey
    exact hl
  | restart =>
    -- nothing is held after the key map has been emptied
    have hempty : (PlatformRequest.before .restart s).Matches env := by
      intro e _ account haccount
      simp [forceGetExternalKeypair_ok, PlatformRequest.before] at haccount
    dsimp only [PlatformLabel.Agrees] at hl
    by_cases hdev : env.config.dev = true
    · rw [if_pos hdev] at hl
      have hpost : Post (env.answers True) (PlatformRequest.function env .restart)
          (PlatformRequest.before .restart s)
          (Ends True (Injected env env.testKeys) (PlatformRequest.before .restart s)
            fun _ _ => True) := by
        rw [PlatformRequest.function, ConfigWriter.onModuleInit, if_pos hdev]
        exact post_testInjectAddress
      refine matches_injected hempty (hpost r t hruns').rel ?_
      intro chainName assetType keypairStr hkey _
      obtain ⟨p, hp, heq⟩ := List.mem_map.1 hkey
      cases heq
      exact hl p hp
    · rw [if_neg hdev] at hl
      have hdev : env.config.dev = false := by simpa using hdev
      obtain ⟨hfails, hresolvable⟩ | hresolves := hl
      · obtain ⟨hgrow, ⟨he, -⟩ | hstored⟩ := post_onModuleInit hdev (.inr hresolvable) r t hruns
        · exact absurd he hfails
        · exact matches_onModuleInit hgrow (.inr hstored)
      · obtain ⟨hgrow, hstored⟩ := post_onModuleInit hdev (.inl trivial) r t hruns'
        exact matches_onModuleInit hgrow (hstored.imp_left fun h => ⟨hresolves, h.2⟩)

/-- In a run whose steps agree, every deposit address is that of the account that pays out. -/
theorem deposits_match (env : PlatformEnv) (accounts : AccountStore) (ls : List PlatformLabel)
    (t : PlatformStore) (hmeets : (platform env).Meets (fun s l => l.Agrees env s) ⟨⟨none⟩, accounts⟩ ls)
    (hrun : (platform env).run ⟨⟨none⟩, accounts⟩ ls = some t) : t.Matches env :=
  System.run_invariant (I := PlatformStore.Matches env) (fun _ _ _ => matches_step)
    (fun _ he => absurd he List.not_mem_nil) hmeets hrun

/-! ## Two runs -/

namespace Sample

/-- The choices when nothing fails: `generates` says whether the accounts are new. -/
def accountChoices (generates : Bool) : PlatformChoice :=
  .account (List.replicate (if generates then 6 else 4) .done)

def setRechargeLabel : PlatformLabel := ⟨.setRecharge 1 config, [.done, .done, .done]⟩

/-- A config comes in through worker 1, and the order worker is restarted. -/
def configThenRestart : List PlatformLabel :=
  [setRechargeLabel,
    ⟨.restart, [.done, accountChoices true, accountChoices true, accountChoices true, .done,
      .done]⟩]

/-- Then the config comes in once more, with the deposit addresses that it had at first. -/
def otherDeposits : List PlatformLabel := configThenRestart ++ [setRechargeLabel]

end Sample

theorem deposits_match_sample :
    ∃ t, (platform Sample.platformEnv).run ⟨⟨none⟩, {}⟩ Sample.configThenRestart = some t ∧
      t.config.entries.length = 3 ∧ t.Matches Sample.platformEnv := by
  obtain ⟨t, hrun, hlength⟩ : ∃ t, (platform Sample.platformEnv).run ⟨⟨none⟩, {}⟩
      Sample.configThenRestart = some t ∧ t.config.entries.length = 3 := ⟨_, rfl, rfl⟩
  refine ⟨t, hrun, hlength, deposits_match Sample.platformEnv {} Sample.configThenRestart t ?_ hrun⟩
  refine ⟨?_, fun s hs => ?_⟩
  · -- the order worker holds no account yet
    intro _ e _ account haccount
    cases haccount
  cases hs
  refine ⟨.inl ⟨?_, fun e he => ?_⟩, fun _ _ => trivial⟩
  · simp [Sample.accountChoices, PlatformChoice.Fails]
  · rcases he with _ | ⟨_, _ | ⟨_, _ | ⟨_, ⟨⟩⟩⟩⟩
    all_goals exact ⟨fun n => ⟨_, rfl⟩, fun _ h => by cases h⟩

/-- `setRecharge` stores the deposit addresses that it is given. -/
theorem not_deposits_match :
    ¬ ∀ (env : PlatformEnv) (accounts : AccountStore) (ls : List PlatformLabel) (t : PlatformStore),
      (platform env).run ⟨⟨none⟩, accounts⟩ ls = some t → t.Matches env := by
  intro h
  obtain ⟨t, hrun, e, he, account, haccount, haddress⟩ : ∃ t,
      (platform Sample.platformEnv).run ⟨⟨none⟩, {}⟩ Sample.otherDeposits = some t ∧
        ∃ e ∈ t.config.entries, ∃ account,
          Account.forceGetExternalKeypair orderWorker e._chain e.item.assetType t.accounts =
            .ok account ∧
          e.item.depositAddress ≠ Sample.platformEnv.depositAddress e._chain account :=
    ⟨_, rfl, _, List.mem_cons_self .., _, rfl, by decide⟩
  exact haddress (h Sample.platformEnv {} Sample.otherDeposits t hrun e he account haccount)

end CotServer
