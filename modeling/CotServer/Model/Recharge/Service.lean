import CotServer.Model.Service
import CotServer.Theory.Requests

/-!
# `RechargeService.rechargeV2`

The request and the functions it is made of, in the order of the source.
-/

namespace CotServer.RechargeService

open Async Service

variable (env : ServiceEnv)

def verifyBalance (detail : RechargeTransDetail) : Service Unit := do
  let { chainName, «from», amount, contractAddress, .. } := detail.fromDetail
  if ← isRechargeDevTest then
    return
  let balanceAmount ← externalBalance chainName «from» contractAddress
  throwIf (balanceAmount < amount)
    (.error (js "chainName:" ++ chainName.toJs ++ js " address:" ++ «from» ++
      js " externalBalance:" ++ jsNat balanceAmount ++ js " is less than amount:" ++ jsNat amount))

/-- The transaction that is handed to the wallet for a detail. -/
def getTrJson (fromTrJson : FromTrJson) (chainName : ExternalChainName) (txHash : JsString) :
    Except Err ExternalTransJson :=
  match chainName with
  | .ETH =>
    match fromTrJson.eth with
    | none => throw ErrorCode.RECHARGE_TRAN_SIGN_MISSING
    | some ethTrans => pure (.eth ethTrans.signTransData txHash)
  | .BSC =>
    match fromTrJson.bsc with
    | none => throw ErrorCode.RECHARGE_TRAN_SIGN_MISSING
    | some bscTrans => pure (.eth bscTrans.signTransData txHash)
  | .TRON =>
    match fromTrJson.tron <|> fromTrJson.trc20 with
    | none => throw ErrorCode.RECHARGE_TRAN_SIGN_MISSING
    | some tronTrans => pure (.tron tronTrans)
  | .other _ => throw ErrorCode.RECHARGE_NOT_SUPPORT_CHAIN

def createExternalTrans (orderId : JsString) (fromTrJson : FromTrJson)
    (detail : RechargeTransDetail) : Service JsString := do
  if ← isRechargeDevTest then
    return ← getUuid env
  let { chainName, «from», «to», amount, contractAddress, txHash } := detail.fromDetail
  let transactionJSON ← settle (getTrJson fromTrJson chainName txHash)
  let txId ← saveExternalTransfer
    { chainName
      transactionJSON
      «from»
      «to»
      amount
      assetSymbol := detail.fromAssetSymbol
      fee := js "0"
      contract := contractAddress
      param := { linkType := .RECHARGE_ORDER, linkId := orderId } }
  return txId

/-- The symbol and the decimals of what was transferred. -/
def symbolAndDecimals (chainName : ExternalChainName) (contractAddress : Option JsString) :
    Service ContractTokenInfo :=
  if !truthy contractAddress then
    match chainName with
    | .BSC => pure { symbol := env.sdk.names.BNB, decimals := 18 }
    | .ETH => pure { symbol := env.sdk.names.ETH, decimals := 18 }
    | .TRON => pure { symbol := env.sdk.names.TRX, decimals := 6 }
    | chainName => throw (.error (js "chainName " ++ chainName.toJs ++ js " is not support"))
  else
    getContractTokenInfo chainName (orUndefined contractAddress)

def getRechargeTransDetailV2 (fromTrJson : FromTrJson) (toTrInfo : RechargeV2ToTrInfoData) :
    Service RechargeTransDetail := do
  if ← isRechargeDevTest then
    let amount := (← random env) * 100000000
    return {
      fromDetail := {
        chainName := .ETH
        «from» := js "0x785f8ee0c83ab7cf398008d0428233fc17735521"
        «to» := js "0xf563CEa8C4777E2E32629a9FBba7B1E91C182e56"
        amount
        contractAddress := none
        txHash := ← getUuid env }
      toDetail := toTrInfo
      fromAssetSymbol := js "USDT"
      fromDecimals := 18
      toAmount := amount }
  let recharge ← getConfigByKeyForce
  let { chainName := toChain, address, assetType, .. } := toTrInfo
  let rechargeObject ← settle (RechargeHelper.checkChainAssetItem recharge toChain assetType)
  throwIf (toChain = [] ∨ address = [])
    (.error (js "<recharge> toTrInfo chainName:" ++ toChain ++ js " or address:" ++ address ++
      js " is undefined"))
  throwIf (rechargeObject.enable = false)
    (.error (js "[" ++ toChain ++ js "] recharge is close"))
  let some fromDetail ← settle (OrderHelper.getExternalChainDetail env.sdk fromTrJson rechargeObject)
    | throw (.error (js "getExternalChainDetail error. \x7b\x7d"))
  let { chainName, contractAddress, amount, .. } := fromDetail
  let info ← symbolAndDecimals env chainName contractAddress
  return {
    fromDetail
    toDetail := toTrInfo
    fromAssetSymbol := info.symbol
    fromDecimals := info.decimals
    toAmount := env.sdk.transformDecimalToBCF info.decimals amount }

def verifyRechargeParamV2 (detail : RechargeTransDetail) : Service Unit := do
  let recharge ← getConfigByKeyForce
  settle (RechargeHelper.verifyRechargeTransDetailV2 env.sdk detail recharge)
  verifyBalance detail

def createRechargeOrderV2 (detail : RechargeTransDetail) (fromTrJson : FromTrJson) :
    Service RechargeOrder := do
  let { fromDetail, toDetail, fromAssetSymbol, fromDecimals, toAmount } := detail
  let entityId ← getUuid env
  let walletTxId ← createExternalTrans env entityId fromTrJson detail
  let order : RechargeOrder :=
    { entityId
      state := .INIT
      walletTxId
      walletChain := some fromDetail.chainName
      walletAddress := some fromDetail.«from»
      walletAmount := some fromDetail.amount
      walletAsset := some fromAssetSymbol
      walletDecimals := some fromDecimals
      contractAddress := fromDetail.contractAddress
      internalChain := toDetail.chainName
      internalAddress := toDetail.address
      rechargeAmount := toAmount
      -- unique until a transaction is created
      rechargeTxId := entityId
      rechargeAssetType := toDetail.assetType
      rechargeType := .ISSUE }
  saveRechargeOrder order
  return order

def createRechargeAirDropOrderV2 (detail : RechargeTransDetail) : Service Unit := do
  let internalChain := detail.toDetail.chainName
  let internalAddress := detail.toDetail.address
  let mainAssetType ← settle (RechargeHelper.getRechargeMainAssetType env.sdk internalChain)
  let balance ← getInternalAccountBalance internalChain internalAddress mainAssetType
  if balance > 0 then
    return
  let airdrop ← findOneRechargeOrder internalAddress .AIRDROP
  if airdrop.isNone then
    let entityId ← getUuid env
    saveRechargeOrder
      { entityId
        state := .INIT
        walletTxId := entityId
        internalChain
        internalAddress
        rechargeAmount := 1000000
        rechargeTxId := entityId
        rechargeAssetType := mainAssetType
        rechargeType := .AIRDROP }

structure RechargeV2ReqDto where
  fromTrJson : FromTrJson
  message : RechargeV2ToTrInfoData

/-- The id of the order that was created. -/
def rechargeV2 (dto : RechargeV2ReqDto) : Service JsString := do
  let detail ← getRechargeTransDetailV2 env dto.fromTrJson dto.message
  verifyRechargeParamV2 env detail
  let order ← createRechargeOrderV2 env detail dto.fromTrJson
  createRechargeAirDropOrderV2 env detail
  return order.entityId

/-- Any number of requests, in any workers, and the record of those that were answered without an
error. -/
abbrev rechargeProgram : Program (Recorded ServiceStore (RechargeV2ReqDto × JsString))
    (fun x : RechargeV2ReqDto × ServiceOp => x.2.Ans) Err RechargeV2ReqDto ServiceChoice
    RechargeV2ReqDto :=
  .requests (ServiceOp.answer env) (rechargeV2 env)

end CotServer.RechargeService
