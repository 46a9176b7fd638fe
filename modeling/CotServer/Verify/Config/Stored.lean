import CotServer.Model.Config.Platform
import CotServer.Verify.Config.Loops
import CotServer.Verify.Redis.Resolve

/-!
# What the writers of the config store

`setConfig` and the restart of the order worker put the address of an account into every support
entry that they store, and `setRecharge` stores the addresses that it is given. The accounts are
those that the keys resolve to in the process.
-/

namespace CotServer

open Async

variable (env : PlatformEnv)

/-- The address that is stored for an account. -/
def PlatformEnv.depositAddress (chainName : ExternalChainName) (account : WalletAccount) :
    JsString :=
  if chainName = .TRON then env.addressToHex account.address else account.address

/-- The asset type of an item, from its contract on the chain if there is one. -/
def PlatformEnv.assetType (chainName : JsString) (item : ExternalAssetInfoItem) : JsString :=
  if truthy item.contract then (env.getContractTokenInfo chainName (orUndefined item.contract)).symbol
  else item.assetType

def BusinessConfig.entries (config : BusinessConfig) : List SupportEntry :=
  (config.recharge.map RechargeObject.entries).getD []

/-- The config of a `setConfig`. -/
def PlatformEnv.Requests (encryptConfig : JsString) (config : BusinessConfig) : Prop :=
  ∃ text, env.verifyKey encryptConfig = .ok text ∧ env.config.parseConfig text = .ok config

def PlatformChoice.Fails : PlatformChoice → Prop
  | .fails _ => True
  | .account choices => ∃ choice ∈ choices, choice ≠ .done
  | _ => False

/-! ## The awaited calls -/

/-- The answers to a call; it can fail if `E` allows it. -/
def PlatformEnv.answers (E : Prop) (c : ConfigCall) (s : PlatformStore) (r : Except Err c.Ans)
    (s' : PlatformStore) : Prop :=
  ∃ choice : PlatformChoice, (choice.Fails → E) ∧ c.answerOnPlatform env choice s = some (r, s')

/-- What the loops do in a process: the config stays, and accounts are added. -/
structure PlatformGrows (w : Worker) (s t : PlatformStore) : Prop where
  config : t.config = s.config
  accounts : AccountsGrow env.account w s.accounts t.accounts

variable {env} {E : Prop} {w : Worker} {s t u : PlatformStore}

theorem PlatformGrows.refl (s : PlatformStore) : PlatformGrows env w s s := ⟨rfl, .refl _⟩

theorem PlatformGrows.trans (s t u : PlatformStore) (h : PlatformGrows env w s t)
    (h' : PlatformGrows env w t u) : PlatformGrows env w s u :=
  ⟨h'.config.trans h.config, .trans _ _ _ h.accounts h'.accounts⟩

/-- A call that cannot fail by itself and leaves the store as it is. -/
theorem post_platform_read {op : ConfigOp} {K : op.Ans → PlatformStore → Prop}
    (h : ∀ choice r t, op.answerOnPlatform env w choice s = some (r, t) →
      s = t ∧ ((∃ e, r = .error e ∧ choice.Fails) ∨ ∃ a, r = .ok a ∧ K a s)) :
    Post (env.answers E) (ConfigWriter.call w op) s (Ends E Eq s K) := by
  refine post_call.2 fun r t hans => ?_
  obtain ⟨choice, hE, hans⟩ := hans
  obtain ⟨rfl, ⟨e, rfl, hfails⟩ | ⟨a, rfl, hK⟩⟩ := h choice r t hans
  · exact .of_error rfl (hE hfails)
  · exact .of_ok rfl hK

theorem post_getContractTokenInfo {chainName contract : JsString} :
    Post (env.answers E) (ConfigWriter.getContractTokenInfo w chainName contract) s
      (Ends E Eq s fun info _ => info = env.getContractTokenInfo chainName contract) := by
  refine post_platform_read fun choice r t hans => ?_
  cases choice with
  | fails e => cases hans; exact ⟨rfl, .inl ⟨e, rfl, trivial⟩⟩
  | done => cases hans; exact ⟨rfl, .inr ⟨_, rfl, rfl⟩⟩
  | text _ | errors _ | account _ => cases hans

theorem post_addressToHex {address : JsString} :
    Post (env.answers E) (ConfigWriter.call w (.addressToHex address)) s
      (Ends E Eq s fun hex _ => hex = env.addressToHex address) := by
  refine post_platform_read fun choice r t hans => ?_
  cases choice with
  | fails e => cases hans; exact ⟨rfl, .inl ⟨e, rfl, trivial⟩⟩
  | done => cases hans; exact ⟨rfl, .inr ⟨_, rfl, rfl⟩⟩
  | text _ | errors _ | account _ => cases hans

theorem post_getAssetDetails {chainName assetType : JsString} :
    Post (env.answers E) (ConfigWriter.call w (.getAssetDetails chainName assetType)) s
      (Ends E Eq s fun _ _ => True) := by
  refine post_platform_read fun choice r t hans => ?_
  cases choice with
  | fails e => cases hans; exact ⟨rfl, .inl ⟨e, rfl, trivial⟩⟩
  | done => cases hans; exact ⟨rfl, .inr ⟨_, rfl, trivial⟩⟩
  | text _ | errors _ | account _ => cases hans

/-- A run on the accounts, as a call of the platform. -/
theorem runs_onPlatform {α : Type} {p : Account.AccountAsync α} {choices : List AccountChoice}
    {r : Except Err α} (hE : (∃ choice ∈ choices, choice ≠ .done) → E)
    (h : AccountAsync.onPlatform env p choices s = some (r, t)) :
    t.config = s.config ∧ p.Runs (env.account.answers E) s.accounts r t.accounts := by
  obtain ⟨⟨r', accounts⟩, hexec, heq⟩ := Option.map_eq_some_iff.1 h
  cases heq
  refine ⟨rfl, (runs_of_exec_mem hexec).mono ?_⟩
  rintro op s a t ⟨choice, hmem, hans⟩
  exact ⟨choice, fun hne => hE ⟨choice, hmem, hne⟩, hans⟩

theorem post_initAccountOf {chainName : ExternalChainName} {assetType : JsString}
    (hE : E ∨ env.account.Derives chainName ∧
      s.accounts.Resolvable env.account w chainName assetType) :
    Post (env.answers E) (ConfigWriter.initExternalAccount w chainName assetType) s
      (Ends E (PlatformGrows env w) s fun account t =>
        Resolves env.account w chainName assetType account t.accounts) := by
  refine post_call.2 fun r t hans => ?_
  obtain ⟨choice, hchoice, hans⟩ := hans
  cases choice with
  | account choices =>
    obtain ⟨hconfig, hruns⟩ := runs_onPlatform hchoice hans
    have hends := post_initExternalAccount hE r t.accounts hruns
    exact ⟨⟨hconfig, hends.rel⟩, hends.ok, hends.error⟩
  | fails _ | done | text _ | errors _ => cases hans

theorem post_depositAddress {chainName : ExternalChainName} {account : WalletAccount} :
    Post (env.answers E) (ConfigWriter.depositAddress w chainName account) s
      (Ends E Eq s fun address _ => address = env.depositAddress chainName account) := by
  unfold ConfigWriter.depositAddress PlatformEnv.depositAddress
  split
  · exact post_addressToHex
  · exact post_pure.2 (.of_ok rfl rfl)

/-! ## The bodies of the loops -/

variable (env w) in
/-- The item has the asset type and the address of an account that the process resolves it to. -/
def PlatformEnv.Deposits (assetType : SupportEntry → JsString) (e : SupportEntry)
    (item : ExternalAssetInfoItem) (s : PlatformStore) : Prop :=
  item.assetType = assetType e ∧
    ∃ account, Resolves env.account w e._chain item.assetType account s.accounts ∧
      item.depositAddress = env.depositAddress e._chain account

variable {assetType : SupportEntry → JsString}

theorem PlatformEnv.Deposits.later {e : SupportEntry} {item : ExternalAssetInfoItem}
    (hst : PlatformGrows env w s t) (h : env.Deposits w assetType e item s) :
    env.Deposits w assetType e item t := by
  obtain ⟨htype, account, hresolve, haddress⟩ := h
  exact ⟨htype, account, hst.accounts.resolve _ _ _ hresolve, haddress⟩

/-- An item gets its asset type from its contract. -/
theorem post_assetType {chainName : JsString} {item : ExternalAssetInfoItem} :
    Post (env.answers E) (ConfigWriter.setRecharge.externalItem w chainName item) s
      (Ends E Eq s fun item' _ => item' = { item with assetType := env.assetType chainName item }) := by
  unfold ConfigWriter.setRecharge.externalItem PlatformEnv.assetType
  split
  · refine .bind (R := Eq) (fun _ _ _ => Eq.trans) post_getContractTokenInfo fun info t _ hinfo => ?_
    exact post_pure.2 (.of_ok rfl (hinfo ▸ rfl))
  · exact post_pure.2 (.of_ok rfl rfl)

/-- An account is resolved for the item, and its address stored. -/
theorem post_deposit {e : SupportEntry} {item : ExternalAssetInfoItem}
    (htype : item.assetType = assetType e)
    (hE : E ∨ env.account.Derives e._chain ∧
      s.accounts.Resolvable env.account w e._chain item.assetType) :
    Post (env.answers E) (ConfigWriter.onModuleInit.externalItem w e._chain item) s
      (Ends E (PlatformGrows env w) s (env.Deposits w assetType e)) := by
  refine (post_initAccountOf hE).bind .trans fun account t _ hresolve => ?_
  refine (post_depositAddress.mono fun _ _ => .of_eq .refl).bind .trans fun address u htu haddress => ?_
  refine post_pure.2 (.of_ok (.refl u) ⟨htype, account, ?_, haddress⟩)
  exact htu.accounts.resolve _ _ _ hresolve

theorem setConfig_body (e : SupportEntry) :
    Post (env.answers True) (ConfigWriter.setConfig.externalItem w e._chain e.item) s
      (Ends True (PlatformGrows env w) s
        (env.Deposits w (fun e => env.assetType e._chain.toJs e.item) e)) := by
  have hsymbol : Post (env.answers True)
      (ConfigWriter.setRecharge.externalItem w e._chain.toJs e.item) s
      (Ends True Eq s fun item _ =>
        item = { e.item with assetType := env.assetType e._chain.toJs e.item }) := post_assetType
  refine (hsymbol.mono fun _ _ => .of_eq .refl).bind .trans fun item t _ hitem => ?_
  exact post_deposit (by rw [hitem]) (.inl trivial)

/-! ## The writers -/

/-- What a writer stores: for every given entry one that `K` allows. -/
def Stores (K : SupportEntry → ExternalAssetInfoItem → PlatformStore → Prop)
    (given : List SupportEntry) (s : PlatformStore) : Prop :=
  SupportEntry.Rels K s given s.config.entries

theorem setConfig_recharge (recharge : Option RechargeObject) :
    Post (env.answers True) (ConfigWriter.setConfig.recharge w recharge) s
      (Ends True (PlatformGrows env w) s fun recharge' t =>
        SupportEntry.Rels (env.Deposits w fun e => env.assetType e._chain.toJs e.item) t
          (BusinessConfig.entries ⟨recharge⟩) (BusinessConfig.entries ⟨recharge'⟩)) := by
  cases recharge with
  | none => exact post_pure.2 (.of_ok (.refl s) .nil)
  | some recharge =>
    refine Post.bind .trans (post_forIn .refl .trans (fun _ _ _ _ h => .later h)
      fun chainName assetType item t _ _ => ?_) fun recharge' t _ h => post_pure.2 (.of_ok (.refl t) h)
    refine (post_getAssetDetails.mono fun _ _ => .of_eq .refl).bind .trans fun _ u _ _ => ?_
    refine Post.bind .trans (post_supportChain .refl .trans (fun _ _ _ _ h => .later h) chainName
      fun e _ v _ => setConfig_body e) fun c v _ h => post_pure.2 (.of_ok (.refl v) h)

theorem post_verifyKey {encryptConfig : JsString} :
    Post (env.answers True) (ConfigWriter.call w (.verifyKey encryptConfig)) s
      (Ends True Eq s fun text _ => env.verifyKey encryptConfig = .ok text) := by
  refine post_call.2 fun r t hans => ?_
  obtain ⟨choice, -, hans⟩ := hans
  cases choice with
  | fails e => cases hans; exact .of_error rfl trivial
  | done => cases hans; exact ⟨rfl, fun _ h => h, fun _ _ => trivial⟩
  | text _ | errors _ | account _ => cases hans

theorem post_validate {config : BusinessConfig} :
    Post (env.answers E) (ConfigWriter.call w (.validate config)) s
      (Ends E Eq s fun _ _ => True) := by
  refine post_platform_read fun choice r t hans => ?_
  cases choice with
  | fails e => cases hans; exact ⟨rfl, .inl ⟨e, rfl, trivial⟩⟩
  | errors texts => cases hans; exact ⟨rfl, .inr ⟨_, rfl, trivial⟩⟩
  | text _ | done | account _ => cases hans

/-- `setConfig` stores the addresses of accounts, or throws and leaves the stored config. -/
theorem post_setConfig_ends (encryptConfig : JsString) :
    Post (env.answers True) (ConfigWriter.setConfig env.config w encryptConfig) s fun r t =>
      AccountsGrow env.account w s.accounts t.accounts ∧
        ((∃ e, r = .error e) ∧ t.config = s.config ∨ ∃ config, env.Requests encryptConfig config ∧
          Stores (env.Deposits w fun e => env.assetType e._chain.toJs e.item) config.entries t) := by
  refine post_verifyKey.seq (fun e t hst _ => hst ▸ ⟨.refl _, .inl ⟨⟨e, rfl⟩, rfl⟩⟩)
    fun text t hst htext => ?_
  subst hst
  refine post_bind.2 (post_settle.2 ?_)
  cases hparse : env.config.parseConfig text with
  | error e => exact ⟨.refl _, .inl ⟨⟨e, rfl⟩, rfl⟩⟩
  | ok config =>
    refine post_validate.seq (fun e t hst _ => hst ▸ ⟨.refl _, .inl ⟨⟨e, rfl⟩, rfl⟩⟩)
      fun errors t hst _ => ?_
    subst hst
    refine post_bind.2 (post_throwIf.2 ⟨fun _ => ⟨.refl _, .inl ⟨⟨_, rfl⟩, rfl⟩⟩, fun _ => ?_⟩)
    refine (setConfig_recharge config.recharge).seq
      (fun e t hst _ => ⟨hst.accounts, .inl ⟨⟨e, rfl⟩, hst.config⟩⟩) fun recharge t hst hrecharge => ?_
    refine post_call.2 fun r u hans => ?_
    obtain ⟨choice, -, hans⟩ := hans
    cases choice with
    | fails e =>
      cases hans
      exact ⟨hst.accounts, .inl ⟨⟨e, rfl⟩, hst.config⟩⟩
    | done =>
      cases hans
      refine ⟨hst.accounts, .inr ⟨config, ⟨text, htext, hparse⟩, ?_⟩⟩
      exact hrecharge.imp fun e _ item h => h
    | text _ | errors _ | account _ => cases hans

/-- `setConfig` leaves the stored config, or stores the addresses of accounts. -/
theorem post_setConfig (encryptConfig : JsString) :
    Post (env.answers True) (ConfigWriter.setConfig env.config w encryptConfig) s fun _ t =>
      AccountsGrow env.account w s.accounts t.accounts ∧
        (t.config = s.config ∨ ∃ config, env.Requests encryptConfig config ∧
          Stores (env.Deposits w fun e => env.assetType e._chain.toJs e.item) config.entries t) :=
  (post_setConfig_ends encryptConfig).mono fun _ _ h => ⟨h.1, h.2.imp_left And.right⟩

variable (env) in
/-- The item is the given one, with the asset type of its contract on the internal chain. -/
def PlatformEnv.Typed (e : SupportEntry) (item : ExternalAssetInfoItem) (_ : PlatformStore) : Prop :=
  item = { e.item with assetType := env.assetType e.chainName e.item }

theorem setRecharge_loops (rechargeConfig : RechargeObject) :
    Post (env.answers True) (rechargeConfig.forIn (ConfigWriter.setRecharge.item w)) s
      (Ends True Eq s fun recharge t =>
        SupportEntry.Rels env.Typed t rechargeConfig.entries recharge.entries) := by
  refine post_forIn (fun _ => rfl) (fun _ _ _ => Eq.trans) (fun _ _ _ _ _ h => h)
    fun chainName assetType item t _ _ => ?_
  refine Post.bind (R := Eq) (fun _ _ _ => Eq.trans) (post_supportChain (K := env.Typed)
    (fun _ => rfl) (fun _ _ _ => Eq.trans) (fun _ _ _ _ _ h => h) chainName fun e he u _ => ?_)
    fun c u _ h => post_pure.2 (.of_ok rfl h)
  rw [← (SupportChain.mem_entries.1 he).1]
  exact post_assetType

/-- `setRecharge` leaves the stored config, or stores what it is given with its asset types. -/
theorem post_setRecharge (rechargeConfig : RechargeObject) :
    Post (env.answers True) (ConfigWriter.setRecharge env.config w rechargeConfig) s fun _ t =>
      t.accounts = s.accounts ∧ (t.config = s.config ∨
        ConfigService.checkConfig env.config.verify rechargeConfig.properties = .ok () ∧
          Stores env.Typed rechargeConfig.entries t) := by
  refine Post.rethrow (post_bind.2 (post_settle.2 ?_)) _
  cases hcheck : ConfigService.checkConfig env.config.verify rechargeConfig.properties with
  | error e => exact ⟨rfl, .inl rfl⟩
  | ok _ =>
    refine (setRecharge_loops rechargeConfig).seq (fun e t hst _ => hst ▸ ⟨rfl, .inl rfl⟩)
      fun recharge t hst hrecharge => ?_
    subst hst
    refine post_call.2 fun r u hans => ?_
    obtain ⟨choice, -, hans⟩ := hans
    cases choice with
    | fails e => cases hans; exact ⟨rfl, .inl rfl⟩
    | done =>
      cases hans
      exact ⟨rfl, .inr ⟨rfl, hrecharge.imp fun e _ item h => h⟩⟩
    | text _ | errors _ | account _ => cases hans

/-! ## `onModuleInit` -/

theorem onModuleInit_item (chainName assetType : JsString) {item : RechargeItem}
    (hE : E ∨ ∀ e ∈ item.supportChain.entries chainName, env.account.Derives e._chain ∧
      s.accounts.Resolvable env.account w e._chain e.item.assetType) :
    Post (env.answers E) (ConfigWriter.onModuleInit.item w chainName assetType item) s
      (Ends E (PlatformGrows env w) s fun item' t =>
        SupportEntry.Rels (env.Deposits w fun e => e.item.assetType) t
          (item.supportChain.entries chainName) (item'.supportChain.entries chainName)) := by
  have hbody : ∀ _chain e, item.supportChain.get _chain = some e →
      EstablishesOn (env.answers E) E (PlatformGrows env w)
        (env.Deposits w fun e => e.item.assetType) s
        (ConfigWriter.onModuleInit.externalItem w _chain e) ⟨chainName, _chain, e⟩ := by
    intro _chain e hget t hst
    refine post_deposit (e := ⟨chainName, _chain, e⟩) rfl (hE.imp_right fun h => ?_)
    obtain ⟨hderives, hresolvable⟩ :=
      h ⟨chainName, _chain, e⟩ (SupportChain.mem_entries.2 ⟨rfl, hget⟩)
    exact ⟨hderives, hst.accounts.resolvable _ _ hderives hresolvable⟩
  refine .bind .trans (post_entry chainName .BSC .refl fun e he => hbody .BSC e he)
    fun BSC t hst hBSC => ?_
  refine .bind .trans (post_entry chainName .ETH .refl fun e he =>
    (hbody .ETH e he).later .trans hst) fun ETH u htu hETH => ?_
  refine .bind .trans (post_entry chainName .TRON .refl fun e he =>
    (hbody .TRON e he).later .trans (.trans s t u hst htu)) fun TRON v huv hTRON =>
      post_pure.2 (.of_ok (.refl v) ?_)
  have hlater : ∀ e item t u, PlatformGrows env w t u →
      env.Deposits w (fun e => e.item.assetType) e item t →
      env.Deposits w (fun e => e.item.assetType) e item u := fun _ _ _ _ htu => .later htu
  have hBSC := hBSC.later hlater (.trans t u v htu huv)
  exact ((hETH.later hlater huv).append hBSC).append hTRON

/-- The restart stores the addresses of accounts; only where calls can fail it may leave the config. -/
theorem post_onModuleInit (hdev : env.config.dev = false)
    (hE : E ∨ ∀ e ∈ s.config.entries, env.account.Derives e._chain ∧
      s.accounts.Resolvable env.account w e._chain e.item.assetType) :
    Post (env.answers E) (ConfigWriter.onModuleInit env.config w) s fun _ t =>
      AccountsGrow env.account w s.accounts t.accounts ∧
        (E ∧ t.config = s.config ∨ Stores (env.Deposits w fun e => e.item.assetType)
          s.config.entries t) := by
  have hget : Post (env.answers E) (ConfigWriter.call w .getConfig) s
      (Ends E Eq s fun config _ => config = s.config) := by
    refine post_platform_read fun choice r t hans => ?_
    cases choice with
    | fails e => cases hans; exact ⟨rfl, .inl ⟨e, rfl, trivial⟩⟩
    | done => cases hans; exact ⟨rfl, .inr ⟨_, rfl, rfl⟩⟩
    | text _ | errors _ | account _ => cases hans
  rw [ConfigWriter.onModuleInit, hdev]
  refine hget.seq (fun e t hst he => hst ▸ ⟨.refl _, .inl ⟨he, rfl⟩⟩) fun config t hst hconfig => ?_
  subst hst hconfig
  cases hrecharge : s.config.recharge with
  | none =>
    have hentries : s.config.entries = [] := by simp [BusinessConfig.entries, hrecharge]
    refine post_pure.2 ⟨.refl _, .inr ?_⟩
    rw [Stores, hentries]
    exact .nil
  | some rechargeConfig =>
    have hentries : s.config.entries = rechargeConfig.entries := by
      simp [BusinessConfig.entries, hrecharge]
    rw [hentries] at hE ⊢
    have hloops : Post (env.answers E) (rechargeConfig.forIn (ConfigWriter.onModuleInit.item w)) s
        (Ends E (PlatformGrows env w) s fun recharge t =>
          SupportEntry.Rels (env.Deposits w fun e => e.item.assetType) t rechargeConfig.entries
            recharge.entries) := by
      refine post_forIn .refl .trans (fun _ _ _ _ h => .later h)
        fun chainName assetType item t hst hentries => ?_
      refine onModuleInit_item chainName assetType (hE.imp_right fun h e he => ?_)
      obtain ⟨hderives, hresolvable⟩ := h e (hentries he)
      exact ⟨hderives, hst.accounts.resolvable _ _ hderives hresolvable⟩
    refine hloops.seq (fun e t hst he => ⟨hst.accounts, .inl ⟨he, hst.config⟩⟩)
      fun recharge t hst hstored => post_tryCatch.2 (post_call.2 fun r u hans => ?_)
    obtain ⟨choice, hchoice, hans⟩ := hans
    cases choice with
    | fails e =>
      cases hans
      exact post_pure.2 ⟨hst.accounts, .inl ⟨hchoice trivial, hst.config⟩⟩
    | done =>
      cases hans
      exact ⟨hst.accounts, .inr (hstored.imp fun e _ item h => h)⟩
    | text _ | errors _ | account _ => cases hans

end CotServer
