import CotServer.Verify.Recharge.Request

/-!
# The asset that backs a recharge

`Backed` is what the checks of a recharge are for: the deposit went to the configured address, in
the configured contract or, where none is configured, in the main coin of the chain. The code
checks the first two; without a configured contract it lets the transfer of any token pass
(`TokenForMainCoin`), and that is the only way an unbacked recharge is accepted.
-/

namespace CotServer

open RechargeService

/-- What the config says about the chain that a recharge comes from. -/
def configuredItem (recharge : RechargeObject) (detail : RechargeTransDetail) :
    Option ExternalAssetInfoItem :=
  (recharge.get detail.toDetail.chainName).bind fun assets =>
    (assets.get detail.toDetail.assetType).bind fun rechargeItem =>
      rechargeItem.supportChain.get detail.fromDetail.chainName

/-- The two contracts are the same up to letter case, or both are absent. -/
def SameContract (sdk : WalletSdk) (configured decoded : Option JsString) : Prop :=
  truthy configured = truthy decoded ∧
    (truthy configured = true →
      sdk.toLowerCase (orUndefined configured) = sdk.toLowerCase (orUndefined decoded))

/-- The transfer went to the deposit address, in the configured asset. -/
def Backed (sdk : WalletSdk) (recharge : RechargeObject) (detail : RechargeTransDetail) : Prop :=
  ∃ item, configuredItem recharge detail = some item ∧
    sdk.toLowerCase item.depositAddress = sdk.toLowerCase detail.fromDetail.«to» ∧
    SameContract sdk item.contract detail.fromDetail.contractAddress

/-- The transfer went to the deposit address, but in a token where the main coin is configured. -/
def TokenForMainCoin (sdk : WalletSdk) (recharge : RechargeObject) (detail : RechargeTransDetail) :
    Prop :=
  ∃ item, configuredItem recharge detail = some item ∧
    sdk.toLowerCase item.depositAddress = sdk.toLowerCase detail.fromDetail.«to» ∧
    truthy item.contract = false ∧ truthy detail.fromDetail.contractAddress = true

variable {sdk : WalletSdk} {recharge : RechargeObject} {detail : RechargeTransDetail}

theorem Backed.not_tokenForMainCoin (h : Backed sdk recharge detail) :
    ¬ TokenForMainCoin sdk recharge detail := by
  rintro ⟨item, hitem, _, hmain, htoken⟩
  obtain ⟨item', hitem', _, hsame, _⟩ := h
  cases hitem.symm.trans hitem'
  rw [hmain, htoken] at hsame
  cases hsame

/-- The item that the check looks at is the configured one. -/
theorem configuredItem_eq_some_iff {item : ExternalAssetInfoItem} :
    configuredItem recharge detail = some item ↔
      ∃ rechargeItem, RechargeHelper.checkChainAssetItem recharge detail.toDetail.chainName
          detail.toDetail.assetType = .ok rechargeItem ∧
        rechargeItem.supportChain.get detail.fromDetail.chainName = some item := by
  unfold configuredItem RechargeHelper.checkChainAssetItem
  cases recharge.get detail.toDetail.chainName with
  | none => simp [throw, throwThe, MonadExceptOf.throw]
  | some assets =>
    cases hasset : assets.get detail.toDetail.assetType <;>
      simp [hasset, throw, throwThe, MonadExceptOf.throw, pure, Except.pure]

/-- What the check asks of the configured item: the deposit address, and the contract where there
is one. -/
theorem verifyRechargeTransDetailV2_ok_iff_item :
    RechargeHelper.verifyRechargeTransDetailV2 sdk detail recharge = .ok () ↔
      ∃ item, configuredItem recharge detail = some item ∧
        sdk.toLowerCase item.depositAddress = sdk.toLowerCase detail.fromDetail.«to» ∧
        (truthy item.contract = true → truthy detail.fromDetail.contractAddress = true ∧
          sdk.toLowerCase (orUndefined item.contract) =
            sdk.toLowerCase (orUndefined detail.fromDetail.contractAddress)) := by
  simp only [configuredItem_eq_some_iff, RechargeHelper.verifyRechargeTransDetailV2]
  cases RechargeHelper.checkChainAssetItem recharge detail.toDetail.chainName
    detail.toDetail.assetType with
  | error e => simp [bind, Except.bind]
  | ok rechargeItem =>
    cases hitem : rechargeItem.supportChain.get detail.fromDetail.chainName with
    | none => simp [hitem, bind, Except.bind, throw, throwThe, MonadExceptOf.throw]
    | some item =>
      by_cases haddress : sdk.toLowerCase item.depositAddress =
          sdk.toLowerCase detail.fromDetail.«to» <;>
        cases hconfigured : truthy item.contract <;>
        cases hdecoded : truthy detail.fromDetail.contractAddress <;>
        by_cases hcontract : sdk.toLowerCase (orUndefined item.contract) =
          sdk.toLowerCase (orUndefined detail.fromDetail.contractAddress) <;>
        simp [hitem, haddress, hconfigured, hcontract, compareTwoStrLowerCase, bind,
          Except.bind, throw, throwThe, MonadExceptOf.throw, pure, Except.pure]

/-- The check passes the backed recharges and the tokens for a main coin. -/
theorem verifyRechargeTransDetailV2_ok_iff :
    RechargeHelper.verifyRechargeTransDetailV2 sdk detail recharge = .ok () ↔
      Backed sdk recharge detail ∨ TokenForMainCoin sdk recharge detail := by
  rw [verifyRechargeTransDetailV2_ok_iff_item]
  constructor
  · rintro ⟨item, hitem, haddress, hcontract⟩
    cases hconfigured : truthy item.contract with
    | true =>
      obtain ⟨hdecoded, hsame⟩ := hcontract hconfigured
      exact .inl ⟨item, hitem, haddress, hconfigured.trans hdecoded.symm, fun _ => hsame⟩
    | false =>
      cases hdecoded : truthy detail.fromDetail.contractAddress with
      | true => exact .inr ⟨item, hitem, haddress, hconfigured, hdecoded⟩
      | false =>
        refine .inl ⟨item, hitem, haddress, hconfigured.trans hdecoded.symm, fun h => ?_⟩
        exact absurd (hconfigured.symm.trans h) (by decide)
  · rintro (⟨item, hitem, haddress, hpresent, hsame⟩ | ⟨item, hitem, haddress, hmain, _⟩)
    · exact ⟨item, hitem, haddress, fun h => ⟨hpresent ▸ h, hsame h⟩⟩
    · exact ⟨item, hitem, haddress, fun h => absurd (hmain.symm.trans h) (by decide)⟩

/-- The order `orderId` was stored for the asked target and mints the conversion of the amount in
the detail, which is decoded from the validated transaction, from the decimals of its token. -/
structure Mints (env : ServiceEnv) (tokenInfo : ExternalChainName → JsString → ContractTokenInfo)
    (s : ServiceStore) (dto : RechargeV2ReqDto) (detail : RechargeTransDetail) (orderId : JsString)
    (s' : ServiceStore) : Prop where
  order : ∃ order ∈ s'.rechargeOrders, order.entityId = orderId ∧
    order.target = dto.message.target ∧ order.rechargeAmount =
      env.sdk.transformDecimalToBCF (detail.tokenDecimals tokenInfo) detail.fromDetail.amount
  decoded : Decoded env s.config dto.fromTrJson dto.message detail
  fromDecimals : detail.fromDecimals = detail.tokenDecimals tokenInfo

variable {tokenInfo : ExternalChainName → JsString → ContractTokenInfo}

/-- An accepted request mints what a checked detail says. -/
theorem rechargeV2_mints {env : ServiceEnv} {dto : RechargeV2ReqDto} {s s' : ServiceStore}
    {orderId : JsString} (hdev : env.rechargeDevTest = false)
    (h : (rechargeV2 env dto).Runs (env.answersWith tokenInfo) s (.ok orderId) s') :
    ∃ detail, Mints env tokenInfo s dto detail orderId s' ∧
      RechargeHelper.verifyRechargeTransDetailV2 env.sdk detail s.config = .ok () := by
  obtain ⟨detail, order, t, t', _, hcreated, hadds, hid, hchecked, u, hdetail⟩ :=
    rechargeV2_ok (fun _ _ _ _ => answersWith_answers) h
  have hdecoded := getRechargeTransDetailV2_ok hdev (runs_answers hdetail)
  have hdecimals := getRechargeTransDetailV2_decimals hdev hdetail
  refine ⟨detail, ⟨⟨order, hadds.rows.mem ?_, hid, ?_, ?_⟩, hdecoded, hdecimals⟩, hchecked⟩
  · rw [hcreated.row]
    exact List.mem_append_right _ (List.mem_singleton_self _)
  · rw [hcreated.target, hdecoded.toDetail]
  · rw [hcreated.rechargeAmount, hdecoded.toAmount, hdecimals]

/-- A recharge that passes the check is backed by the configured asset unless it is a token where
the main coin is configured; and so for what every accepted request mints, whatever the token
service says about the contracts. -/
theorem backed_iff_not_tokenForMainCoin (env : ServiceEnv) :
    (∀ detail recharge,
      (RechargeHelper.verifyRechargeTransDetailV2 env.sdk detail recharge = .ok () →
          Backed env.sdk recharge detail) ↔
        ¬ TokenForMainCoin env.sdk recharge detail) ∧
    ∀ tokenInfo s dto s' orderId, env.rechargeDevTest = false →
      (rechargeV2 env dto).Runs (env.answersWith tokenInfo) s (.ok orderId) s' →
      ∃ detail, Mints env tokenInfo s dto detail orderId s' ∧
        (Backed env.sdk s.config detail ↔ ¬ TokenForMainCoin env.sdk s.config detail) := by
  constructor
  · intro detail recharge
    rw [verifyRechargeTransDetailV2_ok_iff]
    constructor
    · exact fun h htoken => (h (.inr htoken)).not_tokenForMainCoin htoken
    · exact fun h hchecked => hchecked.resolve_right h
  · intro tokenInfo s dto s' orderId hdev hrun
    obtain ⟨detail, hmints, hchecked⟩ := rechargeV2_mints hdev hrun
    refine ⟨detail, hmints, Backed.not_tokenForMainCoin, fun h => ?_⟩
    exact (verifyRechargeTransDetailV2_ok_iff.1 hchecked).resolve_right h

/-- A deposit of the main coin of TRON is accepted and backed. -/
theorem backed_mainCoin : ∃ s' detail,
    Mints Sample.env Sample.tokenInfo { config := Sample.config }
        ⟨⟨none, none, some ⟨js "TDeposit"⟩, none⟩, Sample.message⟩ detail (Sample.uuid 0) s' ∧
      (Backed Sample.sdk Sample.config detail ↔
        ¬ TokenForMainCoin Sample.sdk Sample.config detail) := by
  let dto : RechargeV2ReqDto := ⟨⟨none, none, some ⟨js "TDeposit"⟩, none⟩, Sample.message⟩
  let choices : List ServiceChoice :=
    [.done, .done, .done, .done, .amount 5000000, .done, .text (js "tx"), .done, .amount 1]
  obtain ⟨s', hrun⟩ : ∃ s', (rechargeV2 Sample.env dto).exec
      (ServiceOp.answerWith Sample.tokenInfo Sample.env) choices
      { config := Sample.config } = some (.ok (Sample.uuid 0), s') := ⟨_, rfl⟩
  obtain ⟨detail, h⟩ := (backed_iff_not_tokenForMainCoin Sample.env).2 Sample.tokenInfo _ dto s' _
    rfl (Async.runs_of_exec hrun)
  exact ⟨s', detail, h⟩

/-- A transfer of another token to the deposit address for a main coin passes the check. -/
theorem not_backed_of_verified :
    ¬ ∀ (sdk : WalletSdk) (detail : RechargeTransDetail) (recharge : RechargeObject),
      RechargeHelper.verifyRechargeTransDetailV2 sdk detail recharge = .ok () →
        Backed sdk recharge detail := by
  intro h
  let detail : RechargeTransDetail :=
    { fromDetail := Sample.detail .TRON (js "TDeposit/TWorthless"), toDetail := Sample.message
      fromAssetSymbol := js "WORTHLESS", fromDecimals := 0, toAmount := 150000000000000 }
  have htoken : TokenForMainCoin Sample.sdk Sample.config detail :=
    ⟨⟨true, none, js "TDeposit", js "TRX"⟩, by decide, by decide, by decide, by decide⟩
  exact (h Sample.sdk detail Sample.config
    (verifyRechargeTransDetailV2_ok_iff.2 (.inr htoken))).not_tokenForMainCoin htoken

end CotServer
