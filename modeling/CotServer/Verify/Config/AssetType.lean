import CotServer.Model.Sample
import CotServer.Verify.Config.Loops

/-!
# The two writers and the token service

`setConfig` asks the token service for a contract on its external chain, the key in `supportChain`.
`setRecharge` asks for the same contract on the internal chain, which is the variable of its outer
loop. So they store the same asset type for the configs for which the service makes no difference
between the two chains.
-/

namespace CotServer

open Async

variable {services : Caller → Services} {caller : Caller} {s s' : BusinessConfig}

/-- `item` has the symbol that `info` finds for the contract of the entry, if it has one. -/
def HasSymbol (info : SupportEntry → JsString → Except Err ContractTokenInfo) (e : SupportEntry)
    (item : ExternalAssetInfoItem) : Prop :=
  truthy e.item.contract = true →
    ∃ tokenInfo, info e (orUndefined e.item.contract) = .ok tokenInfo ∧
      item.assetType = tokenInfo.symbol

/-- What the service says about the contract on the external chain of the entry. -/
def Services.external (services : Services) (e : SupportEntry) :
    JsString → Except Err ContractTokenInfo :=
  services.getContractTokenInfo e._chain.toJs

/-- What the service says about the contract on the internal chain of the entry. -/
def Services.internal (services : Services) (e : SupportEntry) :
    JsString → Except Err ContractTokenInfo :=
  services.getContractTokenInfo e.chainName

theorem answers_tokenInfo {chainName contract : JsString} {info : ContractTokenInfo}
    (h : ConfigCall.answers services ⟨caller, .getContractTokenInfo chainName contract⟩ s (.ok info)
      s') : (services caller).getContractTokenInfo chainName contract = .ok info := by
  obtain h | ⟨⟨e, he⟩, _⟩ := h
  · exact (congrArg Prod.fst h).symm
  · cases he

/-- The relation that all stores are in. -/
def Anywhere (_ _ : BusinessConfig) : Prop := True

theorem post_anywhere {α : Type} {p : ConfigAsync BusinessConfig α} :
    Post (ConfigCall.answers services) p s (Ends True Anywhere s fun _ _ => True) :=
  fun _ _ _ => ⟨trivial, fun _ _ => trivial, fun _ _ => trivial⟩

/-! ## The loops -/

/-- A body that asks the service about `chainName`. -/
theorem resolve_symbol (chainName : JsString) (e : SupportEntry) :
    Post (ConfigCall.answers services) (ConfigWriter.setRecharge.externalItem caller chainName e.item)
      s (Ends True Anywhere s fun item _ =>
        HasSymbol (fun _ => (services caller).getContractTokenInfo chainName) e item) := by
  unfold ConfigWriter.setRecharge.externalItem
  split
  · next hcontract =>
    refine .bind (fun _ _ _ _ _ => trivial) (K := fun info _ =>
      (services caller).getContractTokenInfo chainName (orUndefined e.item.contract) = .ok info) ?_
        fun info t _ hinfo => post_pure.2 (.of_ok trivial fun _ => ⟨info, hinfo, rfl⟩)
    refine post_call.2 fun r t h => ⟨trivial, ?_, fun _ _ => trivial⟩
    rintro info rfl
    exact answers_tokenInfo h
  · next hcontract => exact post_pure.2 (.of_ok trivial fun h => absurd h hcontract)

theorem setConfig_symbol (e : SupportEntry) :
    Post (ConfigCall.answers services) (ConfigWriter.setConfig.externalItem caller e._chain e.item) s
      (Ends True Anywhere s fun item _ => HasSymbol (services caller).external e item) := by
  refine .bind (fun _ _ _ _ _ => trivial) (resolve_symbol e._chain.toJs e) fun item t _ hitem => ?_
  refine .bind (fun _ _ _ _ _ => trivial) post_anywhere fun account u _ _ => ?_
  refine .bind (fun _ _ _ _ _ => trivial) post_anywhere fun address v _ _ => ?_
  exact post_pure.2 (.of_ok trivial hitem)

/-- The entries of a stored config have the symbols that `info` finds. -/
def StoresSymbols (info : SupportEntry → JsString → Except Err ContractTokenInfo)
    (given stored : RechargeObject) : Prop :=
  SupportEntry.Rels (fun e item _ => HasSymbol info e item) () given.entries stored.entries

/-- The loops find the symbols that the innermost body `g` finds. -/
theorem post_symbols {info : SupportEntry → JsString → Except Err ContractTokenInfo}
    {g : ExternalChainName → ExternalAssetInfoItem →
      ConfigAsync BusinessConfig ExternalAssetInfoItem} (chainName : JsString) (item : RechargeItem)
    (hg : ∀ e ∈ item.supportChain.entries chainName, ∀ t,
      Post (ConfigCall.answers services) (g e._chain e.item) t
        (Ends True Anywhere t fun item _ => HasSymbol info e item)) :
    Post (ConfigCall.answers services)
      (do let supportChain ← item.supportChain.forIn g; return { item with supportChain }) s
      (Ends True Anywhere s fun item' t => SupportEntry.Rels (fun e item _ => HasSymbol info e item) t
        (item.supportChain.entries chainName) (item'.supportChain.entries chainName)) := by
  have hloop := post_supportChain (K := fun e item _ => HasSymbol info e item) (s := s)
    (R := Anywhere) (fun _ => trivial) (fun _ _ _ _ _ => trivial) (fun _ _ _ _ _ h => h) chainName
    fun e he u _ => hg e he u
  exact .bind (fun _ _ _ _ _ => trivial) hloop fun c' u _ hc' => post_pure.2 (.of_ok trivial hc')

theorem setRecharge_forIn (recharge : RechargeObject) :
    Post (ConfigCall.answers services) (recharge.forIn (ConfigWriter.setRecharge.item caller)) s
      (Ends True Anywhere s fun stored _ =>
        StoresSymbols (services caller).internal recharge stored) := by
  refine post_forIn (K := fun e item _ => HasSymbol (services caller).internal e item)
    (fun _ => trivial) (fun _ _ _ _ _ => trivial) (fun _ _ _ _ _ h => h)
    fun chainName assetType item t _ _ => post_symbols chainName item fun e he u => ?_
  obtain ⟨rfl, _⟩ := SupportChain.mem_entries.1 he
  exact resolve_symbol e.chainName e

theorem setConfig_forIn (recharge : RechargeObject) :
    Post (ConfigCall.answers services) (recharge.forIn (ConfigWriter.setConfig.item caller)) s
      (Ends True Anywhere s fun stored _ =>
        StoresSymbols (services caller).external recharge stored) := by
  refine post_forIn (K := fun e item _ => HasSymbol (services caller).external e item)
    (fun _ => trivial) (fun _ _ _ _ _ => trivial) (fun _ _ _ _ _ h => h)
    fun chainName assetType item t _ _ => ?_
  refine .bind (fun _ _ _ _ _ => trivial) post_anywhere fun _ u _ _ => ?_
  exact post_symbols chainName item fun e _ v => setConfig_symbol e

/-! ## The writers -/

theorem setRecharge_stores {env : ConfigEnv} {recharge : RechargeObject}
    (h : (ConfigWriter.setRecharge env caller recharge).Runs (ConfigCall.answers services) s (.ok ())
      s') :
    ConfigService.checkConfig env.verify recharge.properties = .ok () ∧
      ∃ stored, s'.recharge = some stored ∧
        StoresSymbols (services caller).internal recharge stored := by
  obtain ⟨_, _, hbody⟩ | ⟨e, t, _, hthrow⟩ := runs_tryCatch.1 h
  · obtain ⟨_, t, hcheck, hbody⟩ := runs_bind_ok.1 hbody
    obtain ⟨stored, u, hloop, hsave⟩ := runs_bind_ok.1 hbody
    refine ⟨(runs_settle.1 hcheck).1.symm, stored, ?_, (setRecharge_forIn recharge _ _ hloop).ok _ rfl⟩
    obtain hsave | ⟨⟨e, he⟩, _⟩ := runs_call.1 hsave
    · exact congrArg (BusinessConfig.recharge ∘ Prod.snd) hsave
    · cases he
  · cases hthrow.1

theorem setConfig_stores {env : ConfigEnv} {encryptConfig text : JsString}
    {recharge : RechargeObject} (hkey : (services caller).verifyKey encryptConfig = .ok text)
    (hparse : env.parseConfig text = .ok { recharge := some recharge })
    (h : (ConfigWriter.setConfig env caller encryptConfig).Runs (ConfigCall.answers services) s
      (.ok ()) s') :
    ∃ stored, s'.recharge = some stored ∧
      StoresSymbols (services caller).external recharge stored := by
  simp only [ConfigWriter.setConfig, runs_bind_ok, runs_settle] at h
  obtain ⟨text', _, hcall, config, _, ⟨hconfig, rfl⟩, errors, _, _, _, _, _, recharge', u, hloop,
    hsave⟩ := h
  have htext : text' = text := by
    obtain h | ⟨⟨e, he⟩, _⟩ := runs_call.1 hcall
    · exact Except.ok.inj ((congrArg Prod.fst h).trans hkey)
    · cases he
  rw [htext, hparse] at hconfig
  cases hconfig
  obtain ⟨stored, v, hresolve, hpure⟩ := runs_bind_ok.1 hloop
  cases (runs_pure.1 hpure).1
  refine ⟨stored, ?_, (setConfig_forIn recharge _ _ hresolve).ok _ rfl⟩
  obtain h | ⟨⟨e, he⟩, _⟩ := runs_call.1 hsave
  · exact congrArg (BusinessConfig.recharge ∘ Prod.snd) h
  · cases he

/-! ## Both -/

/-- Whatever the two writers store for `recharge`, its entries with a contract have the symbol of
that contract on their external chain. -/
def ResolvesAlike (env : ConfigEnv) (services : Services) (recharge : RechargeObject) : Prop :=
  (∀ caller s s', (ConfigWriter.setRecharge env caller recharge).Runs
      (ConfigCall.answers fun _ => services) s (.ok ()) s' →
    ∃ stored, s'.recharge = some stored ∧ StoresSymbols services.external recharge stored) ∧
  ∀ caller encryptConfig text s s', services.verifyKey encryptConfig = .ok text →
    env.parseConfig text = .ok { recharge := some recharge } →
    (ConfigWriter.setConfig env caller encryptConfig).Runs (ConfigCall.answers fun _ => services) s
      (.ok ()) s' →
    ∃ stored, s'.recharge = some stored ∧ StoresSymbols services.external recharge stored

/-- The token service knows the contract of every entry on its internal chain. -/
def Services.KnowsInternal (services : Services) (recharge : RechargeObject) : Prop :=
  ∀ e ∈ recharge.entries, truthy e.item.contract = true →
    ∃ info, services.internal e (orUndefined e.item.contract) = .ok info

/-- For every contract it says the same about the external and the internal chain. -/
def Services.SameSymbols (services : Services) (recharge : RechargeObject) : Prop :=
  ∀ e ∈ recharge.entries, truthy e.item.contract = true →
    ∀ info, services.internal e (orUndefined e.item.contract) = .ok info →
      ∃ info', services.external e (orUndefined e.item.contract) = .ok info' ∧
        info'.symbol = info.symbol

theorem setRecharge_canReturn (caller : Nat) {services : Services} {recharge : RechargeObject}
    (h : services.KnowsInternal recharge) :
    CanReturn (ConfigCall.answers fun _ => services)
      (recharge.forIn (ConfigWriter.setRecharge.item caller)) := by
  refine forIn_canReturn fun chainName assetType item hentries => ?_
  refine .bind (supportChain_canReturn chainName fun e he => ?_) fun _ => .pure _
  obtain ⟨rfl, _⟩ := SupportChain.mem_entries.1 he
  unfold ConfigWriter.setRecharge.externalItem
  split
  · next hcontract =>
    obtain ⟨info, hinfo⟩ := h e (hentries he) hcontract
    exact .bind (.call fun s => ⟨info, s, .inl (Prod.ext hinfo.symm rfl)⟩) fun _ => .pure _
  · exact .pure _

/-- A config that passes the check and whose contracts are known on the internal chains is stored in
some run, and resolved alike only if the service says the same about both chains. -/
theorem ResolvesAlike.sameSymbols {env : ConfigEnv} {services : Services} {recharge : RechargeObject}
    (h : ResolvesAlike env services recharge)
    (hcheck : ConfigService.checkConfig env.verify recharge.properties = .ok ())
    (hknows : services.KnowsInternal recharge) : services.SameSymbols recharge := by
  obtain ⟨stored, t, hloop⟩ := setRecharge_canReturn 0 hknows ⟨none⟩
  have hrun : (ConfigWriter.setRecharge env 0 recharge).Runs (ConfigCall.answers fun _ => services)
      ⟨none⟩ (.ok ()) { t with recharge := some stored } := by
    refine runs_tryCatch.2 (.inl ⟨(), rfl, ?_⟩)
    rw [hcheck]
    refine runs_bind_ok.2 ⟨(), _, runs_settle.2 ⟨rfl, rfl⟩, ?_⟩
    exact runs_bind_ok.2 ⟨stored, t, hloop, runs_call.2 (.inl rfl)⟩
  obtain ⟨_, hstored, hexternal⟩ := h.1 0 _ _ hrun
  cases hstored
  have hinternal := (setRecharge_forIn recharge _ _ hloop).ok _ rfl
  intro e he hcontract info hinfo
  obtain ⟨item, hsymbol, hsymbol'⟩ := (hinternal.and hexternal).mem_left he
  obtain ⟨info₁, hinfo₁, htype⟩ := hsymbol hcontract
  obtain ⟨info₂, hinfo₂, htype'⟩ := hsymbol' hcontract
  cases hinfo.symm.trans hinfo₁
  exact ⟨info₂, hinfo₂, htype'.symm.trans htype⟩

/-- The two writers resolve tokens alike for exactly these configs and token services. -/
theorem resolvesAlike_iff (env : ConfigEnv) (services : Services) (recharge : RechargeObject) :
    ResolvesAlike env services recharge ↔
      ConfigService.checkConfig env.verify recharge.properties ≠ .ok () ∨
        ¬ services.KnowsInternal recharge ∨ services.SameSymbols recharge := by
  constructor
  · intro halike
    by_contra hcond
    have hcheck : ConfigService.checkConfig env.verify recharge.properties = .ok () := by tauto
    have hknows : services.KnowsInternal recharge := by tauto
    exact hcond (.inr (.inr (halike.sameSymbols hcheck hknows)))
  · intro hcond
    refine ⟨fun caller s s' hrun => ?_, fun caller encryptConfig text s s' hkey hparse hrun =>
      setConfig_stores hkey hparse hrun⟩
    obtain ⟨hcheck, stored, hstored, hsymbols⟩ := setRecharge_stores hrun
    have hknows : services.KnowsInternal recharge := by
      intro e he hcontract
      obtain ⟨item, hsymbol⟩ := hsymbols.mem_left he
      obtain ⟨info, hinfo, _⟩ := hsymbol hcontract
      exact ⟨info, hinfo⟩
    have hsame : services.SameSymbols recharge := by tauto
    refine ⟨stored, hstored, hsymbols.imp fun e he item hsymbol hcontract => ?_⟩
    obtain ⟨info, hinfo, htype⟩ := hsymbol hcontract
    obtain ⟨info', hinfo', htype'⟩ := hsame e he hcontract info hinfo
    exact ⟨info', hinfo', htype.trans htype'.symm⟩

/-- A service that names a contract after the chain it is asked about. -/
theorem not_resolvesAlike :
    ¬ ∀ (env : ConfigEnv) (services : Services) (recharge : RechargeObject),
      ResolvesAlike env services recharge := by
  intro h
  let services : Services :=
    { Sample.services with getContractTokenInfo := fun chainName _ => .ok ⟨chainName, 6⟩ }
  let e : SupportEntry := ⟨js "BIWMETA", .ETH, ⟨true, some (js "0xUSDT"), js "0xDeposit", js "USDT"⟩⟩
  obtain ⟨info, hinfo, hsymbol⟩ := (h Sample.configEnv services Sample.config).sameSymbols rfl
    (fun _ _ _ => ⟨_, rfl⟩) e (List.mem_cons_self ..) rfl _ rfl
  cases hinfo
  exact absurd hsymbol (by decide)

end CotServer
