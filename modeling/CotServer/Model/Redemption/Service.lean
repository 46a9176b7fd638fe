import CotServer.Model.Service

/-!
# `RedemptionService.redemptionV2`

The request and the functions it is made of, in the order of the source.
-/

namespace CotServer.RedemptionService

open Async Service

variable (env : ServiceEnv)

def verifyBalance (detail : RedemptionTransDetail) : Service Unit := do
  let { fromDetail, toDetail, toAmount, .. } := detail
  let internalBalance ← getInternalAccountBalance fromDetail.chainName
    fromDetail.«from» fromDetail.assetType
  throwIf (internalBalance < fromDetail.amount)
    (.error (js "address:" ++ fromDetail.«from» ++ js " internalBalance:" ++
      jsNat internalBalance ++ js " is less than amount:" ++ jsNat fromDetail.amount))
  if ← isRedemptionDevTest then
    return
  let { chainName, contractAddress, assetType, .. } := toDetail
  let address ← getInjectExternalAddress chainName assetType
  let balanceAmount ← externalBalance chainName address contractAddress
  throwIf (balanceAmount < toAmount)
    (.error (js "walletChain:" ++ chainName.toJs ++ js " address:" ++ address ++
      js " externalBalance:" ++ jsNat balanceAmount ++ js " is less than amount:" ++
      jsNat toAmount))

/-- Division of `bigint`s, which truncates. -/
def bigintDiv (a b : Int) : Except Err Int :=
  if b = 0 then throw (.error (js "Division by zero")) else pure (a.tdiv b)

/-- `BigInt(value)` for a value that may be missing. -/
def bigintOf : Option Int → Except Err Int
  | none => throw (.error (js "Cannot convert undefined to a BigInt"))
  | some n => pure n

/-- The decimals of what is paid out. -/
def decimalsOf (chainName : ExternalChainName) (contractAddress : Option JsString) :
    Service Nat :=
  if truthy contractAddress then do
    let info ← getContractTokenInfo chainName (orUndefined contractAddress)
    return info.decimals
  else
    settle (RedemptionHelper.getMainAssetDecimals chainName)

def getRedemptionTransDetailV2 (fromTrJson : RedemptionV2Tr) : Service RedemptionTransDetail := do
  let rechargeConfig ← getConfigByKeyForce
  let some (fromDetail, trJson) ←
      settle (OrderHelper.getInternalChainDestroyAssetDetail env.sdk fromTrJson)
    | throw (.error (js "getInternalChainDetail error. \x7b\x7d"))
  let rechargeObject ← settle (RechargeHelper.checkChainAssetItem rechargeConfig
    fromDetail.chainName fromDetail.assetType)
  let toDetail ← settle (RedemptionHelper.getToTrDetail trJson rechargeObject)
  let { chainName, contractAddress, .. } := toDetail
  throwIf (rechargeObject.redemption.enable = false)
    (.error (js "redemption is close"))
  let redemption := rechargeObject.redemption
  let decimals ← decimalsOf chainName contractAddress
  let amount := fromDetail.amount
  let minusFeeRatio ← settle (env.sdk.toFraction redemption.radioFee)
  let redemptionFee ← settle (bigintOf (redemption.fee.get chainName.toJs))
  let minusFee ← settle (bigintDiv (amount * minusFeeRatio.numerator) minusFeeRatio.denominator)
  let walletAmount : Int := amount - redemptionFee - minusFee
  throwIf (walletAmount ≤ 0)
    (.error (js " walletAmount:" ++ js (toString walletAmount) ++ js " < 0 amount:" ++
      jsNat amount ++ js " minusFee:" ++ js (toString minusFee) ++ js " < redemptionFee:" ++
      js (toString redemptionFee)))
  return {
    fromDetail
    toDetail
    toAmount := env.sdk.transformDecimalToContract decimals walletAmount.toNat
    redemptionRatio := minusFeeRatio
    redemptionFee }

def verifyRedemptionParamV2 (detail : RedemptionTransDetail) : Service Unit := do
  let { fromDetail, toDetail, .. } := detail
  settle (VerifyHelper.verifyExternalAddress env.sdk toDetail.chainName toDetail.address)
  let rechargeConfig ← getConfigByKeyForce
  let rechargeObject ← settle (RechargeHelper.checkChainAssetItem rechargeConfig
    fromDetail.chainName fromDetail.assetType)
  settle (RedemptionHelper.verifyRedemptionTransDetailV2 detail rechargeObject)
  verifyBalance detail

/-- The transaction that is handed to the wallet. -/
def getTrJson (fromTrJson : RedemptionV2Tr) : Except Err DestroyAssetTransaction :=
  match fromTrJson.bcf with
  | none => throw (.error (js "__createInternalTrans bcfTrans undefined"))
  | some bcfTrans => pure bcfTrans.trJson

def createInternalDestroyAssetTrans (orderId : JsString) (fromTrJson : RedemptionV2Tr)
    (internalChain : JsString) : Service JsString := do
  let transactionJSON ← settle (getTrJson fromTrJson)
  let txId ← saveInternalTransaction
    { chainName := internalChain
      transactionJSON
      param := { linkType := .REDEMPTION_ORDER, linkId := orderId } }
  return txId

def createRedemptionOrderV2 (detail : RedemptionTransDetail) (fromTrJson : RedemptionV2Tr) :
    Service RedemptionOrder := do
  let { fromDetail, toDetail, toAmount, redemptionRatio, redemptionFee } := detail
  let entityId ← getUuid env
  let redemptionTxId ← createInternalDestroyAssetTrans entityId fromTrJson fromDetail.chainName
  let order : RedemptionOrder :=
    { entityId
      state := .INIT
      internalChain := fromDetail.chainName
      internalAddress := fromDetail.«from»
      redemptionTxId
      redemptionAmount := fromDetail.amount
      redemptionRatio
      redemptionAssetType := fromDetail.assetType
      redemptionFee
      -- unique until a transaction is created
      walletTxId := entityId
      walletChain := toDetail.chainName
      walletAddress := toDetail.address
      contractAddress := toDetail.contractAddress
      walletAmount := toAmount
      walletAsset := toDetail.assetType
      redemptionType := .DESTROY }
  saveRedemptionOrder order
  return order

/-- The id of the order that was created. -/
def redemptionV2 (fromTrJson : RedemptionV2Tr) : Service JsString := do
  let detail ← getRedemptionTransDetailV2 env fromTrJson
  verifyRedemptionParamV2 env detail
  let order ← createRedemptionOrderV2 env detail fromTrJson
  return order.entityId

end CotServer.RedemptionService
