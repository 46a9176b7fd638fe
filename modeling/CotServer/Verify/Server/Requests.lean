import CotServer.Model.Server
import CotServer.Theory.Contract
import CotServer.Verify.Recharge.Amid
import CotServer.Verify.Redemption.Amid

/-!
# What the requests of the server store

Each row that a request stores is for what its detail says, which was decoded and checked under
configs that were stored, and for the transaction that the request has saved.
-/

namespace CotServer

open Async Contract Service

/-- The order that a call stores. -/
def ServiceOp.order : ServiceOp → Option (Σ x : OrderId, x.type.Entity)
  | saveRechargeOrder order => some ⟨⟨.RECHARGE, order.entityId⟩, order⟩
  | saveRedemptionOrder order => some ⟨⟨.REDEMPTION, order.entityId⟩, order⟩
  | _ => none

/-- What the services are told, and what they may store. -/
def serviceContract (env : ServerEnv) (config : RechargeObject → Prop)
    (Stores : (x : OrderId) → x.type.Entity → Prop) : Contract ServiceStore ServiceOp.Ans where
  Inv s := config s.config
  Asks op := ∀ row ∈ op.order, Stores row.1 row.2
  Tells
    | .isRechargeDevTest, b => b = env.service.rechargeDevTest
    | .getConfigByKeyForce, c => config c
    | .getContractTokenInfo chainName contractAddress, info =>
      info = env.tokenInfo chainName contractAddress
    | .saveExternalTransfer req, txId => env.externalTransfer txId = some req
    | .saveInternalTransaction req, txId => env.internalTransaction txId = some req
    | _, _ => True

variable {env : ServerEnv} {config : RechargeObject → Prop}
  {Stores : (x : OrderId) → x.type.Entity → Prop}

namespace serviceContract

theorem other {op : ServiceOp} (hop : op.order = none) :
    (serviceContract env config Stores).Upholds (call op : Service op.Ans)
      ((serviceContract env config Stores).Tells op) :=
  .call fun row hrow => by rw [hop] at hrow; cases hrow

theorem getUuid :
    (serviceContract env config Stores).Upholds (getUuid env.service) fun _ => True :=
  .store fun _ _ => .bind (.update fun _ hs => hs) fun _ _ => .pure trivial

theorem random :
    (serviceContract env config Stores).Upholds (random env.service) fun _ => True :=
  .store fun _ _ => .pure trivial

theorem externalBalance {chainName : ExternalChainName} {address : JsString}
    {contractAddress : Option JsString} : (serviceContract env config Stores).Upholds
      (externalBalance chainName address contractAddress) fun _ => True :=
  .ite (.mono (other rfl) fun _ _ => trivial) (.mono (other rfl) fun _ _ => trivial)

end serviceContract

/-! ## Recharges -/

namespace RechargeOrder

open RechargeService

/-- What a request knows of its detail. Outside the development test the transfer is decoded under a
stored config, and converted from the decimals of its token. -/
structure Detailed (env : ServerEnv) (config : RechargeObject → Prop) (dto : RechargeV2ReqDto)
    (detail : RechargeTransDetail) : Prop where
  toDetail : detail.toDetail = dto.message
  decoded : env.service.rechargeDevTest = false →
    ∃ c, config c ∧ Decoded env.service c dto.fromTrJson dto.message detail
  converted : env.service.rechargeDevTest = false →
    detail.fromDecimals = detail.tokenDecimals env.tokenInfo ∧
      detail.toAmount = env.service.sdk.transformDecimalToBCF (detail.tokenDecimals env.tokenInfo)
        detail.fromDetail.amount

/-- A stored config accepts the detail. -/
def Verified (env : ServerEnv) (config : RechargeObject → Prop) (detail : RechargeTransDetail) :
    Prop :=
  ∃ c, config c ∧ RechargeHelper.verifyRechargeTransDetailV2 env.service.sdk detail c = .ok ()

/-- The issue that a request creates for a detail. -/
structure IssuedFor (env : ServerEnv) (config : RechargeObject → Prop) (dto : RechargeV2ReqDto)
    (order : RechargeOrder) (detail : RechargeTransDetail) : Prop where
  new : order.New
  rechargeType : order.rechargeType = .ISSUE
  records : order.Records detail
  detailed : Detailed env config dto detail
  verified : Verified env config detail
  transfer : env.service.rechargeDevTest = false → ∃ json,
    getTrJson dto.fromTrJson detail.fromDetail.chainName detail.fromDetail.txHash = .ok json ∧
      env.externalTransfer order.walletTxId = some (transferReq order.entityId detail json)

/-- The airdrop that a request creates along with the issue for a detail. -/
structure AirdroppedFor (env : ServerEnv) (config : RechargeObject → Prop) (dto : RechargeV2ReqDto)
    (order : RechargeOrder) (detail : RechargeTransDetail) : Prop where
  new : order.New
  rechargeType : order.rechargeType = .AIRDROP
  internalChain : order.internalChain = dto.message.chainName
  internalAddress : order.internalAddress = dto.message.address
  rechargeAssetType : RechargeHelper.getRechargeMainAssetType env.service.sdk
    dto.message.chainName = .ok order.rechargeAssetType
  rechargeAmount : order.rechargeAmount = 1000000
  detailed : Detailed env config dto detail
  verified : Verified env config detail

def CreatedFor (env : ServerEnv) (config : RechargeObject → Prop) (dto : RechargeV2ReqDto)
    (order : RechargeOrder) : Prop :=
  ∃ detail, order.IssuedFor env config dto detail ∨ order.AirdroppedFor env config dto detail

end RechargeOrder

namespace RechargeService

open RechargeOrder (Detailed Verified)

variable {dto : RechargeV2ReqDto} {detail : RechargeTransDetail}

theorem upholds_symbolAndDecimals {chainName : ExternalChainName}
    {contractAddress : Option JsString} : (serviceContract env config Stores).Upholds
      (symbolAndDecimals env.service chainName contractAddress) fun info =>
        info.decimals = tokenDecimals env.tokenInfo chainName contractAddress := by
  unfold symbolAndDecimals tokenDecimals
  cases truthy contractAddress with
  | false =>
    cases chainName with
    | other name => exact .throw
    | _ => exact .pure rfl
  | true => exact Upholds.mono (serviceContract.other rfl) fun info hinfo => by rw [hinfo]; rfl

theorem upholds_getRechargeTransDetailV2 : (serviceContract env config Stores).Upholds
    (getRechargeTransDetailV2 env.service dto.fromTrJson dto.message)
      (Detailed env config dto) := by
  refine Upholds.bind (serviceContract.other rfl) fun devTest hdevTest => ?_
  split
  · next hdev =>
    refine serviceContract.random.bind fun n _ => serviceContract.getUuid.bind fun txHash _ =>
      .pure ?_
    have hno : env.service.rechargeDevTest ≠ false := by
      rw [← hdevTest, hdev]
      decide
    exact ⟨rfl, fun h => absurd h hno, fun h => absurd h hno⟩
  · refine Upholds.bind (serviceContract.other rfl) fun c hc => ?_
    refine Upholds.bind (.settle fun item h => h) fun item hitem => ?_
    refine Upholds.throwIf.bind fun _ _ => Upholds.throwIf.bind fun _ henable => ?_
    refine Upholds.bind (.settle fun fromDetail h => h) fun fromDetail hdetail => ?_
    cases fromDetail with
    | none => exact .throw
    | some fromDetail =>
      refine upholds_symbolAndDecimals.bind fun info hinfo => .pure ⟨rfl, fun _ => ?_, fun _ => ?_⟩
      · exact ⟨c, hc, rfl, rfl, item, hitem, by simpa using henable, hdetail⟩
      · exact ⟨hinfo, congrArg (env.service.sdk.transformDecimalToBCF · _) hinfo⟩

theorem upholds_verifyBalance : (serviceContract env config Stores).Upholds
    (verifyBalance detail) fun _ => True := by
  refine Upholds.bind (serviceContract.other rfl) fun devTest _ => .ite (.pure trivial) ?_
  exact serviceContract.externalBalance.bind fun _ _ => .mono .throwIf fun _ _ => trivial

theorem upholds_verifyRechargeParamV2 : (serviceContract env config Stores).Upholds
    (verifyRechargeParamV2 env.service detail) fun _ => Verified env config detail := by
  refine Upholds.bind (serviceContract.other rfl) fun c hc => ?_
  refine Upholds.bind (.settle fun _ h => h) fun _ hverify => ?_
  exact upholds_verifyBalance.mono fun _ _ => ⟨c, hc, hverify⟩

theorem upholds_createExternalTrans {orderId : JsString} :
    (serviceContract env config Stores).Upholds
      (createExternalTrans env.service orderId dto.fromTrJson detail) fun txId =>
        env.service.rechargeDevTest = false → ∃ json,
          getTrJson dto.fromTrJson detail.fromDetail.chainName detail.fromDetail.txHash =
              .ok json ∧
            env.externalTransfer txId = some (transferReq orderId detail json) := by
  refine Upholds.bind (serviceContract.other rfl) fun devTest hdevTest => ?_
  split
  · next hdev =>
    refine serviceContract.getUuid.mono fun txId _ hno => ?_
    exact absurd (hno.symm.trans (hdevTest.symm.trans hdev)) Bool.false_ne_true
  · refine Upholds.bind (.settle fun json h => h) fun json hjson => ?_
    exact Upholds.mono (serviceContract.other rfl) fun txId htxId _ => ⟨json, hjson, htxId⟩

theorem upholds_createRechargeOrderV2 (hdetail : Detailed env config dto detail)
    (hverified : Verified env config detail)
    (hstores : ∀ order : RechargeOrder, order.IssuedFor env config dto detail →
      Stores ⟨.RECHARGE, order.entityId⟩ order) :
    (serviceContract env config Stores).Upholds
      (createRechargeOrderV2 env.service detail dto.fromTrJson) fun _ => True := by
  refine serviceContract.getUuid.bind fun entityId _ => ?_
  refine upholds_createExternalTrans.bind fun walletTxId htransfer => ?_
  refine Upholds.bind (.call ?_) fun _ _ => .pure trivial
  rintro _ ⟨⟩
  exact hstores _ ⟨⟨rfl, rfl⟩, rfl, ⟨rfl, rfl, rfl, rfl, rfl, rfl⟩, hdetail, hverified, htransfer⟩

theorem upholds_createRechargeAirDropOrderV2 (hdetail : Detailed env config dto detail)
    (hverified : Verified env config detail)
    (hstores : ∀ order : RechargeOrder, order.AirdroppedFor env config dto detail →
      Stores ⟨.RECHARGE, order.entityId⟩ order) :
    (serviceContract env config Stores).Upholds
      (createRechargeAirDropOrderV2 env.service detail) fun _ => True := by
  refine Upholds.bind (.settle fun mainAssetType h => h) fun mainAssetType hasset => ?_
  refine Upholds.bind (serviceContract.other rfl) fun balance _ => .ite (.pure trivial) ?_
  refine Upholds.bind (serviceContract.other rfl) fun airdrop _ => .ite ?_ (.pure trivial)
  refine serviceContract.getUuid.bind fun entityId _ => ?_
  refine Upholds.mono (.call ?_) fun _ _ => trivial
  rintro _ ⟨⟩
  refine hstores _ ⟨⟨rfl, rfl⟩, rfl, ?_, ?_, ?_, rfl, hdetail, hverified⟩
  · exact congrArg RechargeV2ToTrInfoData.chainName hdetail.toDetail
  · exact congrArg RechargeV2ToTrInfoData.address hdetail.toDetail
  · rw [← hdetail.toDetail]
    exact hasset

/-- A recharge request stores rows that are created for it. -/
theorem upholds_rechargeV2 (hstores : ∀ order : RechargeOrder, order.CreatedFor env config dto →
      Stores ⟨.RECHARGE, order.entityId⟩ order) :
    (serviceContract env config Stores).Upholds (rechargeV2 env.service dto) fun _ => True := by
  refine upholds_getRechargeTransDetailV2.bind fun detail hdetail => ?_
  refine upholds_verifyRechargeParamV2.bind fun _ hverified => ?_
  refine (upholds_createRechargeOrderV2 hdetail hverified fun order horder =>
    hstores order ⟨detail, .inl horder⟩).bind fun order _ => ?_
  exact (upholds_createRechargeAirDropOrderV2 hdetail hverified fun order horder =>
    hstores order ⟨detail, .inr horder⟩).bind fun _ _ => .pure trivial

end RechargeService

/-! ## Redemptions -/

open RedemptionService

/-- The order that a request creates for a detail. -/
structure RedemptionOrder.CreatedFor (env : ServerEnv) (config : RechargeObject → Prop)
    (fromTrJson : RedemptionV2Tr) (order : RedemptionOrder) (detail : RedemptionTransDetail) :
    Prop where
  new : order.New
  records : order.Records detail
  decoded : ∃ c, config c ∧ RedemptionDecoded env.service c fromTrJson detail
  settled : detail.amounts.Settled env.service.sdk (detail.tokenDecimals env.tokenInfo)
  verified : ∃ c, config c ∧ RedemptionVerified c detail
  transaction : ∃ trJson, RedemptionService.getTrJson fromTrJson = .ok trJson ∧
    env.internalTransaction order.redemptionTxId =
      some ⟨detail.fromDetail.chainName, trJson, ⟨.REDEMPTION_ORDER, order.entityId⟩⟩

namespace RedemptionService

variable {fromTrJson : RedemptionV2Tr} {detail : RedemptionTransDetail}

theorem upholds_decimalsOf {chainName : ExternalChainName} {contractAddress : Option JsString} :
    (serviceContract env config Stores).Upholds (decimalsOf chainName contractAddress)
      fun decimals => decimals = tokenDecimals env.tokenInfo chainName contractAddress := by
  unfold decimalsOf tokenDecimals
  cases truthy contractAddress with
  | false => exact .settle fun decimals h => getMainAssetDecimals_ok h
  | true =>
    refine Upholds.bind (serviceContract.other rfl) fun info hinfo => .pure ?_
    rw [hinfo]
    rfl

theorem upholds_getRedemptionTransDetailV2 : (serviceContract env config Stores).Upholds
    (getRedemptionTransDetailV2 env.service fromTrJson) fun detail =>
      (∃ c, config c ∧ RedemptionDecoded env.service c fromTrJson detail) ∧
        detail.amounts.Settled env.service.sdk (detail.tokenDecimals env.tokenInfo) := by
  refine Upholds.bind (serviceContract.other rfl) fun c hc => ?_
  refine Upholds.bind (.settle fun fromDetail h => h) fun fromDetail hfrom => ?_
  cases fromDetail with
  | none => exact .throw
  | some fromDetail =>
    obtain ⟨fromDetail, trJson⟩ := fromDetail
    refine Upholds.bind (.settle fun item h => h) fun item hitem => ?_
    refine Upholds.bind (.settle fun toDetail h => h) fun toDetail hto => ?_
    refine Upholds.throwIf.bind fun _ henable => upholds_decimalsOf.bind fun decimals hdecimals => ?_
    refine Upholds.bind (.settle fun ratio h => h) fun ratio hratio => ?_
    refine Upholds.bind (.settle fun fee h => h) fun fee hfee => ?_
    refine Upholds.bind (.settle fun minusFee h => h) fun minusFee hminusFee => ?_
    refine Upholds.throwIf.bind fun _ hpositive => .pure ?_
    have hget : item.redemption.fee.get toDetail.chainName.toJs = some fee := by
      cases hget : item.redemption.fee.get toDetail.chainName.toJs with
      | none =>
        rw [hget] at hfee
        cases hfee
      | some fee' =>
        rw [hget] at hfee
        cases hfee
        rfl
    subst hdecimals
    refine ⟨⟨c, hc, ⟨trJson, item, hfrom, hitem, ?_, hto, hratio, hget⟩, env.tokenInfo, ?_⟩, ?_⟩
    · simpa using henable
    all_goals exact ⟨minusFee, hminusFee, Int.not_le.1 hpositive, rfl⟩

theorem upholds_verifyBalance : (serviceContract env config Stores).Upholds
    (verifyBalance detail) fun _ => True := by
  refine Upholds.bind (serviceContract.other rfl) fun internalBalance _ => ?_
  refine Upholds.throwIf.bind fun _ _ => Upholds.bind (serviceContract.other rfl) fun _ _ => ?_
  refine .ite (.pure trivial) (Upholds.bind (serviceContract.other rfl) fun address _ => ?_)
  exact serviceContract.externalBalance.bind fun _ _ => .mono .throwIf fun _ _ => trivial

theorem upholds_verifyRedemptionParamV2 : (serviceContract env config Stores).Upholds
    (verifyRedemptionParamV2 env.service detail) fun _ =>
      ∃ c, config c ∧ RedemptionVerified c detail := by
  refine Upholds.bind (Q := fun _ => True) (.settle fun _ _ => trivial) fun _ _ => ?_
  refine Upholds.bind (serviceContract.other rfl) fun c hc => ?_
  refine Upholds.bind (.settle fun item h => h) fun item hitem => ?_
  refine Upholds.bind (.settle fun _ h => h) fun _ hverify => ?_
  exact upholds_verifyBalance.mono fun _ _ => ⟨c, hc, item, hitem, hverify⟩

theorem upholds_createRedemptionOrderV2
    (hdecoded : ∃ c, config c ∧ RedemptionDecoded env.service c fromTrJson detail)
    (hsettled : detail.amounts.Settled env.service.sdk (detail.tokenDecimals env.tokenInfo))
    (hverified : ∃ c, config c ∧ RedemptionVerified c detail)
    (hstores : ∀ order : RedemptionOrder, order.CreatedFor env config fromTrJson detail →
      Stores ⟨.REDEMPTION, order.entityId⟩ order) :
    (serviceContract env config Stores).Upholds
      (createRedemptionOrderV2 env.service detail fromTrJson) fun _ => True := by
  refine serviceContract.getUuid.bind fun entityId _ => ?_
  refine Upholds.bind (Q := fun txId => ∃ trJson, getTrJson fromTrJson = .ok trJson ∧
    env.internalTransaction txId =
      some ⟨detail.fromDetail.chainName, trJson, ⟨.REDEMPTION_ORDER, entityId⟩⟩) ?_
    fun redemptionTxId htransaction => ?_
  · refine Upholds.bind (.settle fun trJson h => h) fun trJson htrJson => ?_
    exact Upholds.mono (serviceContract.other rfl) fun txId htxId => ⟨trJson, htrJson, htxId⟩
  · refine Upholds.bind (.call ?_) fun _ _ => .pure trivial
    rintro _ ⟨⟩
    exact hstores _ ⟨⟨rfl, rfl⟩, ⟨rfl, rfl, rfl, rfl, rfl⟩, hdecoded, hsettled, hverified,
      htransaction⟩

/-- A redemption request stores rows that are created for it. -/
theorem upholds_redemptionV2 (hstores : ∀ (order : RedemptionOrder) detail,
      order.CreatedFor env config fromTrJson detail →
        Stores ⟨.REDEMPTION, order.entityId⟩ order) :
    (serviceContract env config Stores).Upholds (redemptionV2 env.service fromTrJson)
      fun _ => True := by
  refine upholds_getRedemptionTransDetailV2.bind fun detail hdetail => ?_
  obtain ⟨hdecoded, hsettled⟩ := hdetail
  refine upholds_verifyRedemptionParamV2.bind fun _ hverified => ?_
  exact (upholds_createRedemptionOrderV2 hdecoded hsettled hverified fun order horder =>
    hstores order detail horder).bind fun _ _ => .pure trivial

end RedemptionService

end CotServer
