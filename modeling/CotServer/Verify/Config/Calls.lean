import CotServer.Model.Config.Startup

/-!
# What the config functions call

The config functions only call. Their loops make calls of the caller's own: what is stored as the
config is read before them and written after them, and secrets are injected in the development mode
only.
-/

namespace CotServer

open Async

variable {σ : Type} {A : ConfigCall → Prop} {env : ConfigEnv} {caller : Caller}

def ConfigOp.injects : ConfigOp → Bool
  | injectRWAddress .. | injectExternalAddress .. => true
  | _ => false

/-- `A` allows the calls of `caller` that are not about the stored config and inject nothing. -/
def AllowsOwn (A : ConfigCall → Prop) (caller : Caller) : Prop :=
  ∀ op : ConfigOp, op.access = .own → op.injects = false → A ⟨caller, op⟩

theorem asks_call {op : ConfigOp} (h : A ⟨caller, op⟩) :
    Asks A (ConfigWriter.call caller op : ConfigAsync σ _) := Asks.call h

theorem asks_mapEntries {α : Type} {f : JsString → α → ConfigAsync σ α}
    (h : ∀ key value, Asks A (f key value)) (entries : List (JsString × α)) :
    Asks A (mapEntries f entries) := by
  induction entries with
  | nil => exact Asks.pure
  | cons entry entries ih => exact (h _ _).bind fun _ => ih.bind fun _ => Asks.pure

section

variable {f : ExternalChainName → ExternalAssetInfoItem → ConfigAsync σ ExternalAssetInfoItem}

theorem asks_entry (h : ∀ _chain item, Asks A (f _chain item)) (_chain : ExternalChainName)
    (item : Option ExternalAssetInfoItem) : Asks A (SupportChain.entry _chain item f) := by
  cases item with
  | none => exact Asks.pure
  | some item => exact (h _chain item).bind fun _ => Asks.pure

theorem asks_supportChain (h : ∀ _chain item, Asks A (f _chain item)) (c : SupportChain) :
    Asks A (c.forIn f) := by
  refine (asks_entry h .ETH c.ETH).bind fun ETH => ?_
  refine (asks_entry h .BSC c.BSC).bind fun BSC => ?_
  exact (asks_entry h .TRON c.TRON).bind fun TRON => Asks.pure

end

theorem asks_forIn {f : JsString → JsString → RechargeItem → ConfigAsync σ RechargeItem}
    (h : ∀ chainName assetType item, Asks A (f chainName assetType item))
    (recharge : RechargeObject) : Asks A (recharge.forIn f) :=
  asks_mapEntries (fun chainName assets => asks_mapEntries (h chainName) assets) recharge

/-! ## The loops -/

section

variable (hA : AllowsOwn A caller)

include hA

theorem asks_depositAddress (chainName : ExternalChainName) (account : WalletAccount) :
    Asks A (ConfigWriter.depositAddress caller chainName account : ConfigAsync σ _) := by
  unfold ConfigWriter.depositAddress
  split
  · exact asks_call (hA _ rfl rfl)
  · exact Asks.pure

/-- The asset type of an item is that of its contract. -/
theorem asks_assetType (chainName : JsString) (item : ExternalAssetInfoItem) :
    Asks A (ConfigWriter.setRecharge.externalItem caller chainName item : ConfigAsync σ _) := by
  unfold ConfigWriter.setRecharge.externalItem
  split
  · exact (asks_call (hA _ rfl rfl)).bind fun _ => Asks.pure
  · exact Asks.pure

/-- An account is resolved for an item. -/
theorem asks_deposit (_chain : ExternalChainName) (item : ExternalAssetInfoItem) :
    Asks A (ConfigWriter.onModuleInit.externalItem caller _chain item : ConfigAsync σ _) := by
  refine (asks_call (hA _ rfl rfl)).bind fun account => ?_
  exact (asks_depositAddress hA _chain account).bind fun _ => Asks.pure

theorem setConfig_item_asks (chainName assetType : JsString) (item : RechargeItem) :
    Asks A (ConfigWriter.setConfig.item caller chainName assetType item : ConfigAsync σ _) := by
  refine (asks_call (hA _ rfl rfl)).bind fun _ => ?_
  refine (asks_supportChain (fun _chain externalItem => ?_) item.supportChain).bind fun _ => Asks.pure
  have hresolve : Asks A (ConfigWriter.setConfig.resolveAssetType caller _chain externalItem :
      ConfigAsync σ _) := asks_assetType hA _chain.toJs externalItem
  exact hresolve.bind fun externalItem => asks_deposit hA _chain externalItem

theorem setConfig_recharge_asks (recharge : Option RechargeObject) :
    Asks A (ConfigWriter.setConfig.recharge caller recharge : ConfigAsync σ _) := by
  cases recharge with
  | none => exact Asks.pure
  | some recharge => exact (asks_forIn (setConfig_item_asks hA) recharge).bind fun _ => Asks.pure

theorem setRecharge_item_asks (chainName assetType : JsString) (item : RechargeItem) :
    Asks A (ConfigWriter.setRecharge.item caller chainName assetType item : ConfigAsync σ _) := by
  refine (asks_supportChain (fun _chain externalItem => ?_) item.supportChain).bind fun _ => Asks.pure
  exact asks_assetType hA chainName externalItem

theorem onModuleInit_item_asks (chainName assetType : JsString) (item : RechargeItem) :
    Asks A (ConfigWriter.onModuleInit.item caller chainName assetType item : ConfigAsync σ _) := by
  refine (asks_entry (asks_deposit hA) .BSC _).bind fun BSC => ?_
  refine (asks_entry (asks_deposit hA) .ETH _).bind fun ETH => ?_
  exact (asks_entry (asks_deposit hA) .TRON _).bind fun TRON => Asks.pure

/-! ## The functions -/

theorem setConfig_asks (hsave : ∀ config, A ⟨caller, .saveConfig config⟩)
    (encryptConfig : JsString) :
    Asks A (ConfigWriter.setConfig env caller encryptConfig : ConfigAsync σ _) := by
  refine (asks_call (hA _ rfl rfl)).bind fun text => ?_
  refine Asks.settle.bind fun config => ?_
  refine (asks_call (hA _ rfl rfl)).bind fun errors => ?_
  refine Asks.throwIf.bind fun _ => ?_
  exact (setConfig_recharge_asks hA config.recharge).bind fun recharge => asks_call (hsave _)

theorem onModuleInit_asks (hdev : env.dev = false) (hget : A ⟨caller, .getConfig⟩)
    (hsave : ∀ config, A ⟨caller, .saveConfig config⟩) :
    Asks A (ConfigWriter.onModuleInit env caller : ConfigAsync σ _) := by
  rw [ConfigWriter.onModuleInit, hdev]
  refine (asks_call hget).bind fun config => ?_
  split
  · exact Asks.pure
  · next recharge hrecharge =>
    refine (asks_forIn (onModuleInit_item_asks hA) recharge).bind fun recharge => ?_
    exact (asks_call (hsave _)).tryCatch fun _ => Asks.pure

end

end CotServer
