import CotServer.Verify.Amid
import CotServer.Verify.Recharge.Request

/-!
# A recharge while the config is written

What the first read of the config decides of a recharge holds under the config of that read, and
what the second read decides under that of the second.
-/

namespace CotServer

open Async Service Program RechargeService

variable {env : ServiceEnv} {configs stored : List RechargeObject} {c c' : ServicePool}
  {tr : List ServiceExchange}

theorem leavesConfig_symbolAndDecimals {chainName : ExternalChainName}
    {contractAddress : Option JsString} :
    LeavesConfig (symbolAndDecimals env chainName contractAddress) := by
  unfold symbolAndDecimals
  split
  · split
    · exact .pure _
    · exact .pure _
    · exact .pure _
    · exact .throw _
  · exact .call _

theorem leavesConfig_getRechargeTransDetailV2 {fromTrJson : FromTrJson}
    {message : RechargeV2ToTrInfoData} :
    LeavesConfig (getRechargeTransDetailV2 env fromTrJson message) := by
  apply LeavesConfig.bind (.call _)
  intro devTest
  split
  · exact .bind .random fun _ => .bind .getUuid fun _ => .pure _
  · apply LeavesConfig.bind (.call _)
    intro config
    apply LeavesConfig.bind (.settle _)
    intro item
    apply LeavesConfig.bind (.throwIf _ _)
    intro _
    apply LeavesConfig.bind (.throwIf _ _)
    intro _
    apply LeavesConfig.bind (.settle _)
    intro fromDetail
    cases fromDetail with
    | none => exact .throw _
    | some fromDetail => exact .bind leavesConfig_symbolAndDecimals fun _ => .pure _

/-- The first read of the config: the request is decoded under it. -/
theorem getRechargeTransDetailV2_alongside (h : Amid stored c) (hstored : configs ⊆ stored)
    {fromTrJson : FromTrJson} {message : RechargeV2ToTrInfoData} {detail : RechargeTransDetail}
    (hdev : env.rechargeDevTest = false)
    (hcall : (env.amid configs).Alongside (getRechargeTransDetailV2 env fromTrJson message) c tr
      (.ok detail) c') :
    ∃ x ∈ tr, x.op = .getConfigByKeyForce ∧ x.before.config ∈ stored ∧
      Decoded env x.before.config fromTrJson message detail := by
  obtain ⟨devTest, c₁, tr₁, tr₂, rfl, hdevTest, hrest⟩ := alongside_bind_ok.1 hcall
  have hc₁ := h.alongside hstored (.call _) hdevTest
  obtain ⟨before, after, rfl, hex⟩ := alongside_call.1 hdevTest
  obtain ⟨o, hans⟩ := hex.answered
  obtain ⟨rfl, _⟩ := answers_devTest.1 ⟨o, hans⟩
  rw [hdev, if_neg (by decide)] at hrest
  obtain ⟨config, c₂, tr₃, tr₄, rfl, hread, hdecide⟩ := alongside_bind_ok.1 hrest
  obtain ⟨hmem, ⟨s, rfl, rfl⟩, _⟩ := hc₁.getConfigByKeyForce hstored hread
  refine ⟨⟨.getConfigByKeyForce, s, .ok s.config, s⟩, by simp, rfl, hmem, ?_⟩
  simp only [alongside_bind_ok, alongside_settle, alongside_throwIf] at hdecide
  obtain ⟨item, _, _, _, _, ⟨_, hitem, _⟩, _, _, _, _, _, _, _, _, _, _, _,
    ⟨_, hreturns, _⟩, fromDetail, _, _, _, _, ⟨_, hdetail, _⟩, hinfo⟩ := hdecide
  cases fromDetail with
  | none => cases hinfo.2.1
  | some fromDetail =>
    obtain ⟨info, _, _, _, _, _, hpure⟩ := alongside_bind_ok.1 hinfo
    cases (alongside_pure.1 hpure).2.1
    refine ⟨rfl, rfl, item, hitem.symm, ?_, hdetail.symm⟩
    simpa using hreturns

/-- The second read of the config: the detail is checked against it. -/
theorem verifyRechargeParamV2_alongside (h : Amid stored c) (hstored : configs ⊆ stored)
    {detail : RechargeTransDetail}
    (hcall : (env.amid configs).Alongside (verifyRechargeParamV2 env detail) c tr (.ok ()) c') :
    ∃ x ∈ tr, x.op = .getConfigByKeyForce ∧ x.before.config ∈ stored ∧
      RechargeHelper.verifyRechargeTransDetailV2 env.sdk detail x.before.config = .ok () := by
  obtain ⟨config, c₁, tr₁, tr₂, rfl, hread, hcheck⟩ := alongside_bind_ok.1 hcall
  obtain ⟨hmem, ⟨s, rfl, rfl⟩, _⟩ := h.getConfigByKeyForce hstored hread
  obtain ⟨_, c₂, tr₃, tr₄, rfl, hverify, _⟩ := alongside_bind_ok.1 hcheck
  refine ⟨⟨.getConfigByKeyForce, s, .ok s.config, s⟩, by simp, rfl, hmem, ?_⟩
  exact (alongside_settle.1 hverify).2.1.symm

/-- The order is for what the detail says. -/
structure RechargeOrder.Records (detail : RechargeTransDetail) (order : RechargeOrder) : Prop where
  target : order.target = detail.toDetail.target
  rechargeAmount : order.rechargeAmount = detail.toAmount
  walletChain : order.walletChain = some detail.fromDetail.chainName
  walletAddress : order.walletAddress = some detail.fromDetail.«from»
  walletAmount : order.walletAmount = some detail.fromDetail.amount
  contractAddress : order.contractAddress = detail.fromDetail.contractAddress

theorem createRechargeOrderV2_alongside {fromTrJson : FromTrJson} {detail : RechargeTransDetail}
    {order : RechargeOrder}
    (hcall : (env.amid configs).Alongside (createRechargeOrderV2 env detail fromTrJson) c tr
      (.ok order) c') : order.Records detail ∧ ∃ x ∈ tr, x.op = .saveRechargeOrder order := by
  simp only [createRechargeOrderV2, alongside_bind_ok] at hcall
  obtain ⟨entityId, _, _, _, rfl, _, txId, _, _, _, rfl, _, _, _, _, _, rfl, hsave, hpure⟩ := hcall
  cases (alongside_pure.1 hpure).2.1
  obtain ⟨x, hx, hop⟩ := exists_op_of_alongside_call hsave
  exact ⟨⟨rfl, rfl, rfl, rfl, rfl, rfl⟩, x, by simp [hx], hop⟩

/-- The items let the same requests in. -/
structure RechargeItem.SameIntake (sdk : WalletSdk) (fromTrJson : FromTrJson)
    (item item' : RechargeItem) : Prop where
  enable : item'.enable = item.enable
  fromDetail : OrderHelper.getExternalChainDetail sdk fromTrJson item' =
    OrderHelper.getExternalChainDetail sdk fromTrJson item

/-- The items take the same deposits on a chain. -/
def RechargeItem.SameDeposit (chainName : ExternalChainName) (item item' : RechargeItem) : Prop :=
  (item'.supportChain.get chainName).map (fun entry => (entry.depositAddress, entry.contract)) =
    (item.supportChain.get chainName).map fun entry => (entry.depositAddress, entry.contract)

/-- One of the two parts of a recharge config that its request reads is the same in both configs. -/
def RechargeKept (sdk : WalletSdk) (dto : RechargeV2ReqDto) (config config' : RechargeObject) :
    Prop :=
  ∀ item item',
    RechargeHelper.checkChainAssetItem config dto.message.chainName dto.message.assetType = .ok item →
    RechargeHelper.checkChainAssetItem config' dto.message.chainName dto.message.assetType =
      .ok item' →
    item.SameIntake sdk dto.fromTrJson item' ∨
      ∀ fromDetail, OrderHelper.getExternalChainDetail sdk dto.fromTrJson item =
        .ok (some fromDetail) → item.SameDeposit fromDetail.chainName item'

theorem RechargeKept.refl (sdk : WalletSdk) (dto : RechargeV2ReqDto) (config : RechargeObject) :
    RechargeKept sdk dto config config := by
  intro item item' hitem hitem'
  rw [hitem] at hitem'
  cases hitem'
  exact .inl ⟨rfl, rfl⟩

/-- All that a recharge is judged by, under one config. -/
structure RechargeJudged (env : ServiceEnv) (config : RechargeObject) (dto : RechargeV2ReqDto)
    (detail : RechargeTransDetail) : Prop where
  decoded : env.rechargeDevTest = false → Decoded env config dto.fromTrJson dto.message detail
  verified : RechargeHelper.verifyRechargeTransDetailV2 env.sdk detail config = .ok ()

theorem verifyRechargeTransDetailV2_congr {sdk : WalletSdk} {detail : RechargeTransDetail}
    {config config' : RechargeObject} {item item' : RechargeItem}
    (hitem : RechargeHelper.checkChainAssetItem config detail.toDetail.chainName
      detail.toDetail.assetType = .ok item)
    (hitem' : RechargeHelper.checkChainAssetItem config' detail.toDetail.chainName
      detail.toDetail.assetType = .ok item')
    (hsame : item.SameDeposit detail.fromDetail.chainName item') :
    RechargeHelper.verifyRechargeTransDetailV2 sdk detail config =
      RechargeHelper.verifyRechargeTransDetailV2 sdk detail config' := by
  simp only [RechargeHelper.verifyRechargeTransDetailV2, hitem, hitem', Bind.bind, Except.bind]
  unfold RechargeItem.SameDeposit at hsame
  cases hentry : item.supportChain.get detail.fromDetail.chainName with
  | none =>
    rw [hentry] at hsame
    rw [Option.map_eq_none_iff.1 hsame]
  | some entry =>
    rw [hentry] at hsame
    obtain ⟨entry', hentry', heq⟩ := Option.map_eq_some_iff.1 hsame
    obtain ⟨haddress, hcontract⟩ := Prod.mk.inj heq
    simp only [hentry', haddress, hcontract]

theorem verifyRechargeTransDetailV2_item {sdk : WalletSdk} {detail : RechargeTransDetail}
    {config : RechargeObject}
    (h : RechargeHelper.verifyRechargeTransDetailV2 sdk detail config = .ok ()) :
    ∃ item, RechargeHelper.checkChainAssetItem config detail.toDetail.chainName
      detail.toDetail.assetType = .ok item := by
  cases hitem : RechargeHelper.checkChainAssetItem config detail.toDetail.chainName
      detail.toDetail.assetType with
  | ok item => exact ⟨item, rfl⟩
  | error e =>
    simp only [RechargeHelper.verifyRechargeTransDetailV2, hitem, Bind.bind, Except.bind] at h
    cases h

/-- What two configs decide is decided by one of them. -/
theorem RechargeJudged.of_kept {dto : RechargeV2ReqDto} {detail : RechargeTransDetail}
    {config config' : RechargeObject}
    (hdecoded : Decoded env config dto.fromTrJson dto.message detail)
    (hverified : RechargeHelper.verifyRechargeTransDetailV2 env.sdk detail config' = .ok ())
    (hkept : RechargeKept env.sdk dto config config') :
    RechargeJudged env config dto detail ∨ RechargeJudged env config' dto detail := by
  obtain ⟨item, hitem, henable, hfrom⟩ := hdecoded.item
  obtain ⟨item', hitem'⟩ := verifyRechargeTransDetailV2_item hverified
  have hto := hdecoded.toDetail
  rw [hto] at hitem'
  rcases hkept item item' hitem hitem' with hintake | hdeposit
  · right
    refine ⟨fun _ => ⟨hto, hdecoded.toAmount, item', hitem', ?_, ?_⟩, hverified⟩
    · rw [hintake.enable, henable]
    · rw [hintake.fromDetail, hfrom]
  · left
    refine ⟨fun _ => hdecoded, ?_⟩
    have hsame : RechargeHelper.verifyRechargeTransDetailV2 env.sdk detail config =
        RechargeHelper.verifyRechargeTransDetailV2 env.sdk detail config' := by
      apply verifyRechargeTransDetailV2_congr
      · rw [hto]
        exact hitem
      · rw [hto]
        exact hitem'
      · exact hdeposit _ hfrom
    rw [hsame]
    exact hverified

/-- A recharge that is accepted while the config is written: its order, and what the configs of its
two reads have decided. -/
structure RechargeAccepted (env : ServiceEnv) (stored : List RechargeObject) (dto : RechargeV2ReqDto)
    (tr : List ServiceExchange) (orderId : JsString) (detail : RechargeTransDetail)
    (first second : ServiceExchange) : Prop where
  saved : ∃ order, order.Records detail ∧ order.entityId = orderId ∧
    ∃ x ∈ tr, x.op = .saveRechargeOrder order
  reads : ∀ x ∈ [first, second], x ∈ tr ∧ x.op = .getConfigByKeyForce ∧ x.before.config ∈ stored
  decoded : env.rechargeDevTest = false →
    Decoded env first.before.config dto.fromTrJson dto.message detail
  verified : RechargeHelper.verifyRechargeTransDetailV2 env.sdk detail second.before.config = .ok ()

theorem rechargeV2_accepted (h : Amid stored c) (hstored : configs ⊆ stored) {dto : RechargeV2ReqDto}
    {orderId : JsString}
    (hcall : (env.amid configs).Alongside (rechargeV2 env dto) c tr (.ok orderId) c') :
    ∃ detail first second, RechargeAccepted env stored dto tr orderId detail first second := by
  obtain ⟨detail, c₁, tr₁, tr₂, rfl, hdetail, hrest⟩ := alongside_bind_ok.1 hcall
  obtain ⟨_, c₂, tr₃, tr₄, rfl, hverify, hcreates⟩ := alongside_bind_ok.1 hrest
  obtain ⟨order, c₃, tr₅, tr₆, rfl, hcreate, hairdrop⟩ := alongside_bind_ok.1 hcreates
  obtain ⟨_, _, tr₇, tr₈, rfl, _, hpure⟩ := alongside_bind_ok.1 hairdrop
  have hc₁ := h.alongside hstored leavesConfig_getRechargeTransDetailV2 hdetail
  obtain ⟨second, hsecond, hop, hmem, hverified⟩ := verifyRechargeParamV2_alongside hc₁ hstored hverify
  obtain ⟨hrecords, x, hx, hsaves⟩ := createRechargeOrderV2_alongside hcreate
  have hsaved : ∃ order : RechargeOrder, order.Records detail ∧ order.entityId = orderId ∧
      ∃ x ∈ tr₁ ++ (tr₃ ++ (tr₅ ++ (tr₇ ++ tr₈))), x.op = .saveRechargeOrder order := by
    refine ⟨order, hrecords, ?_, x, by simp [hx], hsaves⟩
    exact Except.ok.inj (alongside_pure.1 hpure).2.1.symm
  have hreads : second ∈ tr₁ ++ (tr₃ ++ (tr₅ ++ (tr₇ ++ tr₈))) := by simp [hsecond]
  cases hdev : env.rechargeDevTest with
  | true =>
    refine ⟨detail, second, second, hsaved, ?_, ?_, hverified⟩
    · intro y hy
      obtain rfl : y = second := by simpa using hy
      exact ⟨hreads, hop, hmem⟩
    · intro hfalse
      rw [hdev] at hfalse
      cases hfalse
  | false =>
    obtain ⟨first, hfirst, hop', hmem', hdecoded⟩ :=
      getRechargeTransDetailV2_alongside h hstored hdev hdetail
    refine ⟨detail, first, second, hsaved, ?_, fun _ => hdecoded, hverified⟩
    intro y hy
    rw [List.mem_pair] at hy
    rcases hy with rfl | rfl
    · exact ⟨by simp [hfirst], hop', hmem'⟩
    · exact ⟨hreads, hop, hmem⟩

end CotServer
