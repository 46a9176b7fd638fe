import CotServer.Verify.Amid
import CotServer.Verify.Redemption.Payout

/-!
# A redemption while the config is written

The first read of the config decides what is paid out and for which fees, the second whether the
amount, the recipient and the asset are as the config wants them.
-/

namespace CotServer

open Async Service Program RedemptionService

variable {env : ServiceEnv} {configs stored : List RechargeObject} {c c' : ServicePool}
  {tr : List ServiceExchange}

theorem leavesConfig_decimalsOf {chainName : ExternalChainName} {contractAddress : Option JsString} :
    LeavesConfig (decimalsOf chainName contractAddress) := by
  unfold decimalsOf
  split
  · exact .bind (.call _) fun _ => .pure _
  · exact .settle _

theorem leavesConfig_getRedemptionTransDetailV2 {fromTrJson : RedemptionV2Tr} :
    LeavesConfig (getRedemptionTransDetailV2 env fromTrJson) := by
  apply LeavesConfig.bind (.call _)
  intro config
  apply LeavesConfig.bind (.settle _)
  intro fromDetail
  cases fromDetail with
  | none => exact .throw _
  | some fromDetail =>
    apply LeavesConfig.bind (.settle _)
    intro item
    apply LeavesConfig.bind (.settle _)
    intro toDetail
    apply LeavesConfig.bind (.throwIf _ _)
    intro _
    apply LeavesConfig.bind leavesConfig_decimalsOf
    intro decimals
    apply LeavesConfig.bind (.settle _)
    intro ratio
    apply LeavesConfig.bind (.settle _)
    intro fee
    apply LeavesConfig.bind (.settle _)
    intro minusFee
    exact .bind (.throwIf _ _) fun _ => .pure _

/-- The decimals are those of the main coin, or what the token service has answered. -/
theorem decimalsOf_alongside {chainName : ExternalChainName} {contractAddress : Option JsString}
    {decimals : Nat}
    (hcall : (env.amid configs).Alongside (decimalsOf chainName contractAddress) c tr
      (.ok decimals) c') :
    ∃ tokenInfo, decimals = tokenDecimals tokenInfo chainName contractAddress := by
  unfold decimalsOf at hcall
  unfold tokenDecimals
  split at hcall
  · next hcontract =>
    exact ⟨fun _ _ => ⟨[], decimals⟩, by rw [if_pos hcontract]⟩
  · next hcontract =>
    refine ⟨fun _ _ => ⟨[], 0⟩, ?_⟩
    rw [if_neg hcontract]
    exact getMainAssetDecimals_ok (alongside_settle.1 hcall).2.1.symm

/-- What an item decides of the payout: whether there is one, in what, and for which fees. -/
structure RechargeItem.Pays (sdk : WalletSdk) (trJson : DestroyAssetTransaction)
    (detail : RedemptionTransDetail) (item : RechargeItem) : Prop where
  enable : item.redemption.enable = true
  toDetail : RedemptionHelper.getToTrDetail trJson item = .ok detail.toDetail
  redemptionRatio : sdk.toFraction item.redemption.radioFee = .ok detail.redemptionRatio
  redemptionFee : item.redemption.fee.get detail.toDetail.chainName.toJs = some detail.redemptionFee

/-- The detail is decoded from the request, for an item of the config. -/
structure RedemptionDecoded (env : ServiceEnv) (config : RechargeObject) (fromTrJson : RedemptionV2Tr)
    (detail : RedemptionTransDetail) : Prop where
  item : ∃ trJson item,
    OrderHelper.getInternalChainDestroyAssetDetail env.sdk fromTrJson =
        .ok (some (detail.fromDetail, trJson)) ∧
      RechargeHelper.checkChainAssetItem config detail.fromDetail.chainName
        detail.fromDetail.assetType = .ok item ∧
      item.Pays env.sdk trJson detail
  settled : ∃ tokenInfo, detail.amounts.Settled env.sdk (detail.tokenDecimals tokenInfo)

/-- The detail is as the config wants it. -/
def RedemptionVerified (config : RechargeObject) (detail : RedemptionTransDetail) : Prop :=
  ∃ item, RechargeHelper.checkChainAssetItem config detail.fromDetail.chainName
      detail.fromDetail.assetType = .ok item ∧
    RedemptionHelper.verifyRedemptionTransDetailV2 detail item = .ok ()

/-- The first read of the config: the request is decoded under it. -/
theorem getRedemptionTransDetailV2_alongside (h : Amid stored c) (hstored : configs ⊆ stored)
    {fromTrJson : RedemptionV2Tr} {detail : RedemptionTransDetail}
    (hcall : (env.amid configs).Alongside (getRedemptionTransDetailV2 env fromTrJson) c tr
      (.ok detail) c') :
    ∃ x ∈ tr, x.op = .getConfigByKeyForce ∧ x.before.config ∈ stored ∧
      RedemptionDecoded env x.before.config fromTrJson detail := by
  obtain ⟨config, c₁, tr₁, tr₂, rfl, hread, hdecode⟩ := alongside_bind_ok.1 hcall
  obtain ⟨hmem, ⟨s, rfl, rfl⟩, _⟩ := h.getConfigByKeyForce hstored hread
  refine ⟨⟨.getConfigByKeyForce, s, .ok s.config, s⟩, by simp, rfl, hmem, ?_⟩
  obtain ⟨fromDetail, _, _, _, _, hfrom, hrest⟩ := alongside_bind_ok.1 hdecode
  have hfrom := (alongside_settle.1 hfrom).2.1
  cases fromDetail with
  | none => cases hrest.2.1
  | some fromDetail =>
    simp only [alongside_bind_ok, alongside_settle, alongside_throwIf, alongside_pure] at hrest
    obtain ⟨item, _, _, _, _, ⟨_, hitem, _⟩, toDetail, _, _, _, _, ⟨_, hto, _⟩, _, _, _, _, _,
      ⟨_, henable, _⟩, decimals, _, _, _, _, hdecimals, ratio, _, _, _, _, ⟨_, hratio, _⟩, fee, _, _, _, _,
      ⟨_, hfee, _⟩, minusFee, _, _, _, _, ⟨_, hminusFee, _⟩, _, _, _, _, _, ⟨_, hpositive, _⟩, _,
      hdetail, _⟩ := hrest
    cases hdetail
    have hfee' : item.redemption.fee.get toDetail.chainName.toJs = some fee := by
      cases hget : item.redemption.fee.get toDetail.chainName.toJs with
      | none =>
        rw [hget] at hfee
        cases hfee
      | some fee' =>
        rw [hget] at hfee
        cases hfee
        rfl
    obtain ⟨tokenInfo, rfl⟩ := decimalsOf_alongside hdecimals
    refine ⟨⟨fromDetail.2, item, hfrom.symm, hitem.symm, ?_, hto.symm, hratio.symm, hfee'⟩, ?_⟩
    · simpa using henable
    · refine ⟨tokenInfo, minusFee, hminusFee.symm, ?_, rfl⟩
      rcases hpositive with ⟨_, herror⟩ | ⟨hpositive, _⟩
      · cases herror
      · exact Int.not_le.1 hpositive

/-- The second read of the config: the detail is checked against it. -/
theorem verifyRedemptionParamV2_alongside (h : Amid stored c) (hstored : configs ⊆ stored)
    {detail : RedemptionTransDetail}
    (hcall : (env.amid configs).Alongside (verifyRedemptionParamV2 env detail) c tr (.ok ()) c') :
    ∃ x ∈ tr, x.op = .getConfigByKeyForce ∧ x.before.config ∈ stored ∧
      RedemptionVerified x.before.config detail := by
  obtain ⟨_, c₁, tr₁, tr₂, rfl, haddress, hrest⟩ := alongside_bind_ok.1 hcall
  have hc₁ := h.alongside hstored (.settle _) haddress
  obtain ⟨config, c₂, tr₃, tr₄, rfl, hread, hcheck⟩ := alongside_bind_ok.1 hrest
  obtain ⟨hmem, ⟨s, rfl, rfl⟩, _⟩ := hc₁.getConfigByKeyForce hstored hread
  refine ⟨⟨.getConfigByKeyForce, s, .ok s.config, s⟩, by simp, rfl, hmem, ?_⟩
  simp only [alongside_bind_ok, alongside_settle] at hcheck
  obtain ⟨item, _, _, _, _, ⟨_, hitem, _⟩, _, _, _, _, _, ⟨_, hverify, _⟩, _⟩ := hcheck
  exact ⟨item, hitem.symm, hverify.symm⟩

/-- The order is for what the detail says. -/
structure RedemptionOrder.Records (detail : RedemptionTransDetail) (order : RedemptionOrder) :
    Prop where
  amounts : order.amounts = detail.amounts
  walletChain : order.walletChain = detail.toDetail.chainName
  walletAddress : order.walletAddress = detail.toDetail.address
  walletAsset : order.walletAsset = detail.toDetail.assetType
  contractAddress : order.contractAddress = detail.toDetail.contractAddress

theorem createRedemptionOrderV2_alongside {fromTrJson : RedemptionV2Tr}
    {detail : RedemptionTransDetail} {order : RedemptionOrder}
    (hcall : (env.amid configs).Alongside (createRedemptionOrderV2 env detail fromTrJson) c tr
      (.ok order) c') : order.Records detail ∧ ∃ x ∈ tr, x.op = .saveRedemptionOrder order := by
  simp only [createRedemptionOrderV2, alongside_bind_ok] at hcall
  obtain ⟨entityId, _, _, _, rfl, _, txId, _, _, _, rfl, _, _, _, _, _, rfl, hsave, hpure⟩ := hcall
  cases (alongside_pure.1 hpure).2.1
  obtain ⟨x, hx, hop⟩ := exists_op_of_alongside_call hsave
  exact ⟨⟨rfl, rfl, rfl, rfl, rfl⟩, x, by simp [hx], hop⟩

/-- The items pay the same for a transaction. -/
structure RechargeItem.SameTerms (trJson : DestroyAssetTransaction) (item item' : RechargeItem) :
    Prop where
  enable : item'.redemption.enable = item.redemption.enable
  radioFee : item'.redemption.radioFee = item.redemption.radioFee
  toDetail : RedemptionHelper.getToTrDetail trJson item' = RedemptionHelper.getToTrDetail trJson item
  fee : ∀ chainName, trJson.remark.chainName = some chainName →
    item'.redemption.fee.get chainName.toJs = item.redemption.fee.get chainName.toJs

/-- The items want the same of a redemption to a chain. -/
structure RechargeItem.SameLimits (chainName : ExternalChainName) (item item' : RechargeItem) :
    Prop where
  applyAddress : item'.applyAddress = item.applyAddress
  min : item'.redemption.min = item.redemption.min
  max : item'.redemption.max = item.redemption.max
  assetType : (item'.supportChain.get chainName).map (·.assetType) =
    (item.supportChain.get chainName).map (·.assetType)

/-- One of the two parts of a config that a redemption reads is the same in both configs. -/
def RedemptionKept (sdk : WalletSdk) (fromTrJson : RedemptionV2Tr) (config config' : RechargeObject) :
    Prop :=
  ∀ fromDetail trJson item item',
    OrderHelper.getInternalChainDestroyAssetDetail sdk fromTrJson = .ok (some (fromDetail, trJson)) →
    RechargeHelper.checkChainAssetItem config fromDetail.chainName fromDetail.assetType = .ok item →
    RechargeHelper.checkChainAssetItem config' fromDetail.chainName fromDetail.assetType = .ok item' →
    item.SameTerms trJson item' ∨
      ∀ chainName, trJson.remark.chainName = some chainName → item.SameLimits chainName item'

theorem RedemptionKept.refl (sdk : WalletSdk) (fromTrJson : RedemptionV2Tr) (config : RechargeObject) :
    RedemptionKept sdk fromTrJson config config := by
  intro fromDetail trJson item item' _ hitem hitem'
  rw [hitem] at hitem'
  cases hitem'
  exact .inl ⟨rfl, rfl, rfl, fun _ _ => rfl⟩

/-- All that a redemption is judged by, under one config. -/
structure RedemptionJudged (env : ServiceEnv) (config : RechargeObject) (fromTrJson : RedemptionV2Tr)
    (detail : RedemptionTransDetail) : Prop where
  decoded : RedemptionDecoded env config fromTrJson detail
  verified : RedemptionVerified config detail

/-- The chain of the payout is the one that the transaction names. -/
theorem getToTrDetail_chainName {trJson : DestroyAssetTransaction} {item : RechargeItem}
    {toDetail : ToTrDetail} (h : RedemptionHelper.getToTrDetail trJson item = .ok toDetail) :
    trJson.remark.chainName = some toDetail.chainName := by
  unfold RedemptionHelper.getToTrDetail at h
  split at h
  · next chainName address assetType hremark =>
    split at h
    · cases h
    · split at h
      · cases h
      · cases h
        rw [hremark]
  · cases h

theorem verifyRedemptionTransDetailV2_congr {detail : RedemptionTransDetail} {item item' : RechargeItem}
    (hsame : item.SameLimits detail.toDetail.chainName item') :
    RedemptionHelper.verifyRedemptionTransDetailV2 detail item' =
      RedemptionHelper.verifyRedemptionTransDetailV2 detail item := by
  simp only [RedemptionHelper.verifyRedemptionTransDetailV2, hsame.applyAddress, hsame.min, hsame.max]
  have hentries := hsame.assetType
  cases hentry : item.supportChain.get detail.toDetail.chainName with
  | none =>
    rw [hentry] at hentries
    rw [Option.map_eq_none_iff.1 hentries]
  | some entry =>
    rw [hentry] at hentries
    obtain ⟨entry', hentry', heq⟩ := Option.map_eq_some_iff.1 hentries
    simp only [hentry', heq]

/-- What two configs decide is decided by one of them. -/
theorem RedemptionJudged.of_kept {fromTrJson : RedemptionV2Tr} {detail : RedemptionTransDetail}
    {config config' : RechargeObject} (hdecoded : RedemptionDecoded env config fromTrJson detail)
    (hverified : RedemptionVerified config' detail)
    (hkept : RedemptionKept env.sdk fromTrJson config config') :
    RedemptionJudged env config fromTrJson detail ∨ RedemptionJudged env config' fromTrJson detail := by
  obtain ⟨trJson, item, hfrom, hitem, hpays⟩ := hdecoded.item
  obtain ⟨item', hitem', hverify⟩ := hverified
  have hchain := getToTrDetail_chainName hpays.toDetail
  rcases hkept _ trJson item item' hfrom hitem hitem' with hterms | hlimits
  · right
    refine ⟨⟨⟨trJson, item', hfrom, hitem', ?_, ?_, ?_, ?_⟩, hdecoded.settled⟩, item', hitem', hverify⟩
    · rw [hterms.enable, hpays.enable]
    · rw [hterms.toDetail, hpays.toDetail]
    · rw [hterms.radioFee, hpays.redemptionRatio]
    · rw [hterms.fee _ hchain, hpays.redemptionFee]
  · left
    refine ⟨hdecoded, item, hitem, ?_⟩
    rw [← verifyRedemptionTransDetailV2_congr (hlimits _ hchain)]
    exact hverify

/-- A redemption that is accepted while the config is written: its order, and what the configs of its
two reads have decided. -/
structure RedemptionAccepted (env : ServiceEnv) (stored : List RechargeObject)
    (fromTrJson : RedemptionV2Tr) (tr : List ServiceExchange) (orderId : JsString)
    (detail : RedemptionTransDetail) (first second : ServiceExchange) : Prop where
  saved : ∃ order, order.Records detail ∧ order.entityId = orderId ∧
    ∃ x ∈ tr, x.op = .saveRedemptionOrder order
  reads : ∀ x ∈ [first, second], x ∈ tr ∧ x.op = .getConfigByKeyForce ∧ x.before.config ∈ stored
  decoded : RedemptionDecoded env first.before.config fromTrJson detail
  verified : RedemptionVerified second.before.config detail

theorem redemptionV2_accepted (h : Amid stored c) (hstored : configs ⊆ stored)
    {fromTrJson : RedemptionV2Tr} {orderId : JsString}
    (hcall : (env.amid configs).Alongside (redemptionV2 env fromTrJson) c tr (.ok orderId) c') :
    ∃ detail first second,
      RedemptionAccepted env stored fromTrJson tr orderId detail first second := by
  obtain ⟨detail, c₁, tr₁, tr₂, rfl, hdetail, hrest⟩ := alongside_bind_ok.1 hcall
  obtain ⟨_, c₂, tr₃, tr₄, rfl, hverify, hcreates⟩ := alongside_bind_ok.1 hrest
  obtain ⟨order, c₃, tr₅, tr₆, rfl, hcreate, hpure⟩ := alongside_bind_ok.1 hcreates
  have hc₁ := h.alongside hstored leavesConfig_getRedemptionTransDetailV2 hdetail
  obtain ⟨first, hfirst, hop, hmem, hdecoded⟩ := getRedemptionTransDetailV2_alongside h hstored hdetail
  obtain ⟨second, hsecond, hop', hmem', hverified⟩ :=
    verifyRedemptionParamV2_alongside hc₁ hstored hverify
  obtain ⟨hrecords, x, hx, hsaves⟩ := createRedemptionOrderV2_alongside hcreate
  refine ⟨detail, first, second, ⟨order, hrecords, ?_, x, by simp [hx], hsaves⟩, ?_, hdecoded,
    hverified⟩
  · exact Except.ok.inj (alongside_pure.1 hpure).2.1.symm
  · intro y hy
    rw [List.mem_pair] at hy
    rcases hy with rfl | rfl
    · exact ⟨by simp [hfirst], hop, hmem⟩
    · exact ⟨by simp [hsecond], hop', hmem'⟩

end CotServer
