import CotServer.Model.Config.Service
import CotServer.Model.Redis.Account

/-!
# The writers of the config

`GlobalValueRedisRepository.setConfig` and `ConfigService.setRecharge` in the web workers, and
`OrderApp.onModuleInit` in the order worker, on configs that have the types of `packages/core`. The
keys of a `supportChain` come in the order `ETH`, `BSC`, `TRON`. A call carries who makes it; the
functions do not touch the store of their process themselves.
-/

namespace CotServer

structure BusinessConfig where
  recharge : Option RechargeObject
  deriving DecidableEq

/-! ## Configs as JSON -/

def ExternalAssetInfoItem.toJsValue (item : ExternalAssetInfoItem) : JsValue :=
  .object ([(js "enable", .boolean item.enable)] ++
    (item.contract.map fun contract => (js "contract", .string contract)).toList ++
    [(js "depositAddress", .string item.depositAddress), (js "assetType", .string item.assetType)])

def SupportChain.toJsValue (c : SupportChain) : JsValue :=
  .object ((c.ETH.map fun item => (js "ETH", item.toJsValue)).toList ++
    (c.BSC.map fun item => (js "BSC", item.toJsValue)).toList ++
    (c.TRON.map fun item => (js "TRON", item.toJsValue)).toList)

def RedemptionConfig.toJsValue (c : RedemptionConfig) : JsValue :=
  .object [(js "enable", .boolean c.enable), (js "min", .number c.min), (js "max", .number c.max),
    (js "fee", .object (c.fee.map fun (chainName, fee) => (chainName, .string (js (toString fee))))),
    (js "radioFee", .string c.radioFee)]

def RechargeItem.toJsValue (item : RechargeItem) : JsValue :=
  .object [(js "enable", .boolean item.enable), (js "chainName", .string item.chainName),
    (js "assetType", .string item.assetType), (js "applyAddress", .string item.applyAddress),
    (js "supportChain", item.supportChain.toJsValue), (js "redemption", item.redemption.toJsValue)]

/-- The properties of a recharge config. -/
def RechargeObject.properties (recharge : RechargeObject) : List (JsString × JsValue) :=
  recharge.map fun (chainName, assets) =>
    (chainName, .object (assets.map fun (assetType, item) => (assetType, item.toJsValue)))

/-! ## Calls -/

/-- What is called; `initExternalAccount` and `injectExternalAddress` are those of the process of
the caller. -/
inductive ConfigOp where
  | verifyKey (encryptConfig : JsString)
  | validate (config : BusinessConfig)
  | getAssetDetails (chainName assetType : JsString)
  | getContractTokenInfo (chainName contract : JsString)
  | initExternalAccount (chainName : ExternalChainName) (assetType : JsString)
  | addressToHex (address : JsString)
  | getServerPublicKey
  | encryptData (data : JsString)
  | injectRWAddress (accountType keypairStr : JsString)
  | injectExternalAddress (chainName : ExternalChainName) (assetType keypairStr : JsString)
  | getConfig
  | saveConfig (config : BusinessConfig)
  | saveConfigByKey (recharge : RechargeObject)

abbrev ConfigOp.Ans : ConfigOp → Type
  | verifyKey _ | addressToHex _ | getServerPublicKey | encryptData _ => JsString
  -- the texts of the errors
  | validate _ => List JsString
  | getAssetDetails .. | saveConfig _ | saveConfigByKey _ => Unit
  | getContractTokenInfo .. => ContractTokenInfo
  | initExternalAccount .. => WalletAccount
  | injectRWAddress .. | injectExternalAddress .. => Bool
  | getConfig => BusinessConfig

/-- Who calls: a process, or one of the functions running in it. -/
abbrev Caller := Nat

structure ConfigCall where
  caller : Caller
  op : ConfigOp

abbrev ConfigCall.Ans (c : ConfigCall) : Type := c.op.Ans

/-- `JSON.parse` of a config, what `RechargeClassVerify` asks, and the mode of the process. -/
structure ConfigEnv where
  parseConfig : JsString → Except Err BusinessConfig
  verify : VerifyEnv
  dev : Bool

abbrev ConfigAsync (σ : Type) := @Async σ ConfigCall ConfigCall.Ans Err

section

variable {m : Type → Type} [Monad m]

/-- One key of a `supportChain`. -/
def SupportChain.entry (chainName : ExternalChainName) (item : Option ExternalAssetInfoItem)
    (f : ExternalChainName → ExternalAssetInfoItem → m ExternalAssetInfoItem) :
    m (Option ExternalAssetInfoItem) :=
  match item with
  | none => pure none
  | some item => do
    let item ← f chainName item
    return some item

/-- `for (const _chain in supportChain)`. -/
def SupportChain.forIn (c : SupportChain)
    (f : ExternalChainName → ExternalAssetInfoItem → m ExternalAssetInfoItem) : m SupportChain := do
  let ETH ← entry .ETH c.ETH f
  let BSC ← entry .BSC c.BSC f
  let TRON ← entry .TRON c.TRON f
  return { ETH, BSC, TRON }

/-- The loops over the internal chains and their assets. -/
def RechargeObject.forIn (recharge : RechargeObject)
    (f : (chainName assetType : JsString) → RechargeItem → m RechargeItem) : m RechargeObject :=
  mapEntries (fun chainName assets => mapEntries (f chainName) assets) recharge

end

namespace ConfigWriter

open Async

variable {σ : Type} (env : ConfigEnv) (caller : Caller)

def call (op : ConfigOp) : ConfigAsync σ op.Ans := Async.call (ConfigCall.mk caller op)

/-! ## `GlobalValueRedisRepository.setConfig` -/

/-- The address that is stored for an account. -/
def depositAddress (chainName : ExternalChainName) (account : WalletAccount) :
    ConfigAsync σ JsString :=
  if chainName = .TRON then call caller (.addressToHex account.address)
  else pure account.address

def getContractTokenInfo (chainName contract : JsString) : ConfigAsync σ ContractTokenInfo :=
  call caller (.getContractTokenInfo chainName contract)

def initExternalAccount (chainName : ExternalChainName) (assetType : JsString) :
    ConfigAsync σ WalletAccount :=
  call caller (.initExternalAccount chainName assetType)

namespace setConfig

/-- The `assetType` of an entry, from its contract if there is one. -/
def resolveAssetType (_chain : ExternalChainName) (externalItem : ExternalAssetInfoItem) :
    ConfigAsync σ ExternalAssetInfoItem :=
  if truthy externalItem.contract then do
    let contractTokenInfo ← getContractTokenInfo caller _chain.toJs
      (orUndefined externalItem.contract)
    return { externalItem with assetType := contractTokenInfo.symbol }
  else
    pure externalItem

/-- The body of the innermost loop. -/
def externalItem (_chain : ExternalChainName) (externalItem : ExternalAssetInfoItem) :
    ConfigAsync σ ExternalAssetInfoItem := do
  let externalItem ← resolveAssetType caller _chain externalItem
  let account ← initExternalAccount caller _chain externalItem.assetType
  let address ← depositAddress caller _chain account
  return { externalItem with depositAddress := address }

/-- The body of the loop over the assets of a chain. -/
def item (internalChainName assetType : JsString) (item : RechargeItem) :
    ConfigAsync σ RechargeItem := do
  call caller (.getAssetDetails internalChainName assetType)
  let supportChain ← item.supportChain.forIn (externalItem caller)
  return { item with supportChain }

def recharge : Option RechargeObject → ConfigAsync σ (Option RechargeObject)
  | none => pure none
  | some recharge => do
    let recharge ← recharge.forIn (item caller)
    return some recharge

end setConfig

def setConfig (encryptConfig : JsString) : ConfigAsync σ Unit := do
  let decryptConfig ← call caller (.verifyKey encryptConfig)
  let config ← settle (env.parseConfig decryptConfig)
  let errors ← call caller (.validate config)
  throwIf (errors ≠ [])
    (.error (js "config validate error: " ++ (js ",").intercalate errors))
  let recharge ← setConfig.recharge caller config.recharge
  call caller (.saveConfig { config with recharge })

/-! ## `ConfigService.setRecharge` -/

namespace setRecharge

/-- The body of the innermost loop. -/
def externalItem (chainName : JsString) (externalItem : ExternalAssetInfoItem) :
    ConfigAsync σ ExternalAssetInfoItem :=
  if truthy externalItem.contract then do
    let contractTokenInfo ← getContractTokenInfo caller chainName (orUndefined externalItem.contract)
    return { externalItem with assetType := contractTokenInfo.symbol }
  else
    pure externalItem

/-- The body of the loop over the assets of a chain. -/
def item (chainName _assetType : JsString) (item : RechargeItem) : ConfigAsync σ RechargeItem := do
  let supportChain ← item.supportChain.forIn fun _chain => externalItem caller chainName
  return { item with supportChain }

end setRecharge

def setRecharge (rechargeConfig : RechargeObject) : ConfigAsync σ Unit :=
  tryCatch
    (do
      settle (ConfigService.checkConfig env.verify rechargeConfig.properties)
      let rechargeConfig ← rechargeConfig.forIn (setRecharge.item caller)
      call caller (.saveConfigByKey rechargeConfig))
    fun error => throw (.error error.message)

/-! ## `OrderApp.onModuleInit` -/

namespace onModuleInit

def testSecretETH : JsString :=
  js "demand stuff prevent suffer squeeze float pluck enemy tank you solution senior"

/-- It is that of TRON, too. -/
def testSecretBSC : JsString :=
  js "express slam merit craft victory dumb priority dog illness rail eyebrow apology"

/-- One chain of an asset. -/
def externalItem (chainName : ExternalChainName) (externalItem : ExternalAssetInfoItem) :
    ConfigAsync σ ExternalAssetInfoItem := do
  let account ← initExternalAccount caller chainName externalItem.assetType
  let address ← depositAddress caller chainName account
  return { externalItem with depositAddress := address }

/-- The body of the loop over the assets of a chain. -/
def item (_c _a : JsString) (item : RechargeItem) : ConfigAsync σ RechargeItem := do
  let supportChain := item.supportChain
  let BSC ← SupportChain.entry .BSC supportChain.BSC (externalItem caller)
  let ETH ← SupportChain.entry .ETH supportChain.ETH (externalItem caller)
  let TRON ← SupportChain.entry .TRON supportChain.TRON (externalItem caller)
  return { item with supportChain := { ETH, BSC, TRON } }

/-- An `injectExternalAddress` of `__testInjectAddress`. -/
def testInjectExternalAddress (chainName : ExternalChainName) (secret : JsString) :
    ConfigAsync σ Unit := do
  let keypairStr ← call caller (.encryptData secret)
  let _ : Bool ← call caller (.injectExternalAddress chainName (js "USDT") keypairStr)

/-- `__testInjectAddress`. -/
def testInjectAddress : ConfigAsync σ Unit := do
  let _ : JsString ← call caller .getServerPublicKey
  let pmcKeypairStr ← call caller (.encryptData (js "nose install correct solar side latin" ++
    js " focus churn mask nominee differ mosquito claw awake glass rare pond clump draw rent" ++
    js " fiction muscle razor bacon"))
  let usdtKeypairStr ← call caller (.encryptData (js "test_usdt"))
  let _ : Bool ← call caller (.injectRWAddress (js "AIRDROP_ACCOUNT") pmcKeypairStr)
  let _ : Bool ← call caller
    (.injectRWAddress (js "RECHARGEV2_ACCOUNT_BIWMETA_USDT") usdtKeypairStr)
  testInjectExternalAddress caller .ETH testSecretETH
  testInjectExternalAddress caller .BSC testSecretBSC
  testInjectExternalAddress caller .TRON testSecretBSC

end onModuleInit

open onModuleInit in
/-- The part of `onModuleInit` that is about accounts; nobody waits for its `saveConfig`. -/
def onModuleInit : ConfigAsync σ Unit := do
  if env.dev then
    testInjectAddress caller
  else
    let config ← call caller .getConfig
    match config.recharge with
    | none => pure ()
    | some rechargeConfig =>
      let rechargeConfig ← rechargeConfig.forIn (item caller)
      tryCatch (call caller (.saveConfig { config with recharge := some rechargeConfig }))
        fun _ => pure ()

end ConfigWriter

/-! ## Services -/

/-- What the calls of one caller find outside the config. -/
structure Services where
  verifyKey : JsString → Except Err JsString
  validate : BusinessConfig → Except Err (List JsString)
  getAssetDetails : JsString → JsString → Except Err Unit
  getContractTokenInfo : JsString → JsString → Except Err ContractTokenInfo
  initExternalAccount : ExternalChainName → JsString → Except Err WalletAccount
  addressToHex : JsString → Except Err JsString
  serverPublicKey : Except Err JsString
  encryptData : JsString → Except Err JsString
  injectRWAddress : JsString → JsString → Except Err Bool
  injectExternalAddress : ExternalChainName → JsString → JsString → Except Err Bool

/-- The answer of the services, and of Redis to the calls that are about the stored config. -/
def ConfigOp.serve (services : Services) :
    (op : ConfigOp) → BusinessConfig → Except Err op.Ans × BusinessConfig
  | verifyKey encryptConfig, s => (services.verifyKey encryptConfig, s)
  | validate config, s => (services.validate config, s)
  | getAssetDetails chainName assetType, s => (services.getAssetDetails chainName assetType, s)
  | getContractTokenInfo chainName contract, s =>
    (services.getContractTokenInfo chainName contract, s)
  | initExternalAccount chainName assetType, s =>
    (services.initExternalAccount chainName assetType, s)
  | addressToHex address, s => (services.addressToHex address, s)
  | getServerPublicKey, s => (services.serverPublicKey, s)
  | encryptData data, s => (services.encryptData data, s)
  | injectRWAddress accountType keypairStr, s => (services.injectRWAddress accountType keypairStr, s)
  | injectExternalAddress chainName assetType keypairStr, s =>
    (services.injectExternalAddress chainName assetType keypairStr, s)
  | getConfig, s => (.ok s, s)
  | saveConfig config, _ => (.ok (), config)
  | saveConfigByKey recharge, s => (.ok (), { s with recharge := some recharge })

/-- The answers to a call: that of its services, or any error and no effect. -/
def ConfigCall.answers (services : Caller → Services) (c : ConfigCall) (s : BusinessConfig)
    (r : Except Err c.Ans) (s' : BusinessConfig) : Prop :=
  (r, s') = c.op.serve (services c.caller) s ∨ (∃ e, r = .error e) ∧ s' = s

end CotServer
