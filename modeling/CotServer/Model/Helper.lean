import CotServer.Model.Types

/-!
# The helpers

`OrderHelper`, `RechargeHelper`, `RedemptionHelper` and the address check of `VerifyHelper`. What
they call of the wallet SDK and of the runtime is in `WalletSdk`.
-/

namespace CotServer

/-- The names the server knows by the enumerations of the SDK. -/
structure AssetNames where
  PMCHAIN : JsString
  BIWMETA : JsString
  PMC : JsString
  BIW : JsString
  BNB : JsString
  ETH : JsString
  TRX : JsString

/-- The functions of the wallet SDK that compute and do not communicate. A decoder names the
chain it decodes for. -/
structure WalletSdk where
  names : AssetNames
  toLowerCase : JsString → JsString
  getEthTransDetail : JsString → Except Err ExternalTransDetail
  getBscTransDetail : JsString → Except Err ExternalTransDetail
  getTronTransDetail : TronTransaction → Except Err ExternalTransDetail
  getDestroyAssetTransDetail : JsString → DestroyAssetTransaction → Except Err InternalTransDetail
  isEthAddress : JsString → Bool
  isTronAddress : JsString → Bool
  transformDecimalToBCF : (decimals amount : Nat) → Nat
  transformDecimalToContract : (decimals amount : Nat) → Nat
  toFraction : JsString → Except Err Fraction
  eth_chainName : ∀ t d, getEthTransDetail t = .ok d → d.chainName = .ETH
  bsc_chainName : ∀ t d, getBscTransDetail t = .ok d → d.chainName = .BSC
  tron_chainName : ∀ t d, getTronTransDetail t = .ok d → d.chainName = .TRON

variable (sdk : WalletSdk)

/-- A number in a template string. -/
def jsNat (n : Nat) : JsString := js (toString n)

theorem jsNat_inj {m n : Nat} (h : jsNat m = jsNat n) : m = n := by
  have hdigits := congrArg (fun s : String => Nat.ofDigitChars 10 s.toList 0) (js_inj h)
  simpa using hdigits

/-- An optional string in a template string. -/
def orUndefined (s : Option JsString) : JsString := s.getD (js "undefined")

def compareTwoStrLowerCase (a b : JsString) : Bool := sdk.toLowerCase a == sdk.toLowerCase b

/-- `rechargeItem.supportChain[chain]` is there and enabled. -/
def chainEnabled (item : Option ExternalAssetInfoItem) : Bool := item.any (·.enable)

namespace OrderHelper

def getExternalChainDetail (fromTrJson : FromTrJson) (rechargeItem : RechargeItem) :
    Except Err (Option ExternalTransDetail) :=
  match fromTrJson with
  | { eth := some eth, .. } =>
    if chainEnabled rechargeItem.supportChain.ETH then
      some <$> sdk.getEthTransDetail eth.signTransData
    else throw (.error (js "eth close"))
  | { bsc := some bsc, .. } =>
    if chainEnabled rechargeItem.supportChain.BSC then
      some <$> sdk.getBscTransDetail bsc.signTransData
    else throw (.error (js "bsc close"))
  | { trc20 := some trc20, .. } =>
    if chainEnabled rechargeItem.supportChain.TRON then
      some <$> sdk.getTronTransDetail trc20
    else throw (.error (js "tron close"))
  | { tron := some tron, .. } =>
    if chainEnabled rechargeItem.supportChain.TRON then
      some <$> sdk.getTronTransDetail tron
    else throw (.error (js "tron close"))
  | _ => pure none

def getInternalChainDestroyAssetDetail (fromTrJson : RedemptionV2Tr) :
    Except Err (Option (InternalTransDetail × DestroyAssetTransaction)) :=
  match fromTrJson.bcf with
  | none => pure none
  | some { chainName, trJson } => do
    let detail ← sdk.getDestroyAssetTransDetail chainName trJson
    return some (detail, trJson)

end OrderHelper

namespace RechargeHelper

def checkChainAssetItem (recharge : RechargeObject) (chainName assetType : JsString) :
    Except Err RechargeItem :=
  match recharge.get chainName with
  | none => throw (.error (js "<recharge> config error. chainName: " ++ chainName ++ js " "))
  | some assets =>
    match assets.get assetType with
    | none => throw (.error (js "<recharge> config error. chainName: " ++ chainName ++
        js " assetType: " ++ assetType ++ js " "))
    | some item => pure item

def verifyRechargeTransDetailV2 (detail : RechargeTransDetail) (recharge : RechargeObject) :
    Except Err Unit := do
  let { chainName, «to», contractAddress, .. } := detail.fromDetail
  let rechargeItem ← checkChainAssetItem recharge detail.toDetail.chainName detail.toDetail.assetType
  let some supportItem := rechargeItem.supportChain.get chainName
    | throw (.error (js "verifyRechargeTransDetail " ++ chainName.toJs ++ js " " ++
        detail.fromAssetSymbol ++ js "  not support "))
  if !compareTwoStrLowerCase sdk supportItem.depositAddress «to» then
    throw (.error (js "recharge verify depositInfo fail. to:" ++ «to»))
  if truthy supportItem.contract then
    if !truthy contractAddress then
      throw (.error (js "recharge verify depositInfo fail. contractAddress:" ++
        orUndefined contractAddress ++ js " empty"))
    if !compareTwoStrLowerCase sdk (orUndefined supportItem.contract)
        (orUndefined contractAddress) then
      throw (.error (js "recharge verify depositInfo fail. contractAddress:" ++
        orUndefined contractAddress ++ js " !== " ++ orUndefined supportItem.contract))
  -- without a configured contract the detail is not looked at any further

def getRechargeMainAssetType (chainName : JsString) : Except Err JsString :=
  if chainName = sdk.names.PMCHAIN then pure sdk.names.PMC
  else if chainName = sdk.names.BIWMETA then pure sdk.names.BIW
  else throw (.error (js "not support " ++ chainName))

end RechargeHelper

namespace RedemptionHelper

def getToTrDetail (transactionJSON : DestroyAssetTransaction) (rechargeObject : RechargeItem) :
    Except Err ToTrDetail :=
  match transactionJSON.remark with
  | { chainName := some chainName, address := some address, assetType := some assetType } =>
    if chainName.toJs = [] ∨ address = [] ∨ assetType = [] then
      throw (.error (js "getToTrDetail fail. chainName:" ++ chainName.toJs ++ js " or address:" ++
        address ++ js " or assetType:" ++ assetType ++ js " is undefined"))
    else
      match rechargeObject.supportChain.get chainName with
      | none => throw (.error (js "supportChain not support chainName " ++ chainName.toJs ++ js "  "))
      | some item => pure { chainName, address, assetType, contractAddress := item.contract }
  | { chainName, address, assetType } =>
    throw (.error (js "getToTrDetail fail. chainName:" ++
      orUndefined (chainName.map ExternalChainName.toJs) ++ js " or address:" ++
      orUndefined address ++ js " or assetType:" ++ orUndefined assetType ++ js " is undefined"))

def verifyRedemptionTransDetailV2 (detail : RedemptionTransDetail) (rechargeObject : RechargeItem) :
    Except Err Unit := do
  let { min, max, .. } := rechargeObject.redemption
  let { «to», amount := fromAmount, .. } := detail.fromDetail
  if «to» ≠ rechargeObject.applyAddress then
    throw (.error (js "Redemption to:" ++ «to» ++ js " is not platform address " ++
      rechargeObject.applyAddress))
  if fromAmount < min then
    throw (.error (js "<redemption> amount:" ++ jsNat fromAmount ++ js " can't less than " ++
      js (toString min)))
  if fromAmount > max then
    throw (.error (js "<redemption> amount:" ++ jsNat fromAmount ++ js " can't more than " ++
      js (toString max)))
  match rechargeObject.supportChain.get detail.toDetail.chainName with
  | some item =>
    if ¬ item.assetType = detail.toDetail.assetType then
      throw (.error (js "<redemption> assetType wrong " ++ detail.toDetail.assetType))
  | none =>
    throw (.error (js "<redemption> not support " ++ detail.toDetail.chainName.toJs))

def getMainAssetDecimals : ExternalChainName → Except Err Nat
  | .BSC => pure 18
  | .ETH => pure 18
  | .TRON => pure 6
  | chainName => throw (.error (js "chainName " ++ chainName.toJs ++ js " is not support"))

end RedemptionHelper

def VerifyHelper.verifyExternalAddress (chainName : ExternalChainName) (address : JsString) :
    Except Err Unit :=
  match chainName with
  | .ETH | .BSC =>
    if !sdk.isEthAddress address then throw ErrorCode.AUTH_INFO_EXCEPTION_INVALID_ADDRESS
    else pure ()
  | .TRON =>
    if !sdk.isTronAddress address then throw ErrorCode.AUTH_INFO_EXCEPTION_INVALID_ADDRESS
    else pure ()
  | chainName => throw (.error (js "invaild chainName: " ++ chainName.toJs))

end CotServer
