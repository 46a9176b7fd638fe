import CotServer.Model.Sample
import CotServer.Verify.Recharge.Request
import CotServer.Verify.Redemption.Payout

/-!
# Value is conserved

An accepted recharge mints at most the value of its deposit, an accepted redemption pays out at
most the value of what it burns, less the fees. So the deposits that are left after any recharges
and redemptions cover the fees, whatever the decimals of the tokens, as long as no more is burned
than was minted.

In the development test the deposit is made up and its decimals are not those of its amount.
-/

namespace CotServer

open Async Service RechargeService RedemptionService Decimals

variable {env : ServiceEnv} {tokenInfo : ExternalChainName → JsString → ContractTokenInfo}
  {s s' : ServiceStore}

/-! ## Recharges -/

/-- The value of the deposit of an order; an airdrop has none. -/
def RechargeOrder.deposit (tokenInfo : ExternalChainName → JsString → ContractTokenInfo)
    (order : RechargeOrder) : ℚ :=
  match order.walletChain with
  | none => 0
  | some chainName =>
    value (tokenDecimals tokenInfo chainName order.contractAddress) (order.walletAmount.getD 0)

/-- A recharge request that was accepted; its order is the first row it adds. -/
structure AcceptedRecharge (env : ServiceEnv)
    (tokenInfo : ExternalChainName → JsString → ContractTokenInfo) where
  dto : RechargeV2ReqDto
  before : ServiceStore
  after : ServiceStore
  orderId : JsString
  runs : (rechargeV2 env dto).Runs (env.answersWith tokenInfo) before (.ok orderId) after
  order : RechargeOrder
  stored : after.rechargeOrders[before.rechargeOrders.length]? = some order

variable (tokenInfo) in
/-- The row has the deposit and the minted amount of the detail. -/
theorem createRechargeOrderV2_amounts {fromTrJson : FromTrJson} {detail : RechargeTransDetail}
    {order : RechargeOrder}
    (h : (createRechargeOrderV2 env detail fromTrJson).Runs env.answers s (.ok order) s') :
    order.rechargeAmount = detail.toAmount ∧ order.deposit tokenInfo =
      value (tokenDecimals tokenInfo detail.fromDetail.chainName detail.fromDetail.contractAddress)
        detail.fromDetail.amount := by
  simp only [createRechargeOrderV2, runs_bind_ok, runs_pure] at h
  obtain ⟨entityId, _, _, txId, _, _, _, _, _, horder, _⟩ := h
  cases horder
  exact ⟨rfl, rfl⟩

/-- No more is minted than was deposited. -/
theorem rechargeV2_minted_le (hsdk : RescalesDecimals env.sdk) (hdev : env.rechargeDevTest = false)
    {dto : RechargeV2ReqDto} {orderId : JsString} {order : RechargeOrder}
    (hrun : (rechargeV2 env dto).Runs (env.answersWith tokenInfo) s (.ok orderId) s')
    (hstored : s'.rechargeOrders[s.rechargeOrders.length]? = some order) :
    value 8 order.rechargeAmount ≤ order.deposit tokenInfo := by
  simp only [rechargeV2, runs_bind_ok] at hrun
  obtain ⟨detail, t₁, hdetail, _, t₂, hverify, order', t₃, hcreate, _, t₄, hairdrop, hpure⟩ := hrun
  obtain ⟨_, rfl⟩ := runs_pure.1 hpure
  have hread := (reads_getRechargeTransDetailV2 _ _ _ _ _ (runs_answers hdetail)).trans _ _ _
    (reads_verifyRechargeParamV2 _ _ _ _ (runs_answers hverify))
  have hcreate := runs_answers hcreate
  obtain ⟨_, hok, hcreated⟩ | ⟨⟨e, herror⟩, _⟩ := createRechargeOrderV2_runs hcreate
  · cases hok
    have hsame : order' = order := by
      obtain ⟨rest, hrows⟩ := (addsRows_createRechargeAirDropOrderV2 _ _ _ _
        (runs_answers hairdrop)).rows
      rw [← hrows, hcreated.row, hread.rechargeOrders] at hstored
      simpa using hstored
    obtain ⟨hminted, hdeposit⟩ := createRechargeOrderV2_amounts tokenInfo hcreate
    have htoAmount := (getRechargeTransDetailV2_ok hdev (runs_answers hdetail)).toAmount
    rw [hsdk.transformDecimalToBCF, getRechargeTransDetailV2_decimals hdev hdetail] at htoAmount
    rw [← hsame, hminted, hdeposit, htoAmount]
    exact value_rescale_le _ 8 _
  · cases herror

/-! ## Redemptions -/

/-- The value of the payout of an order. -/
def RedemptionOrder.payout (tokenInfo : ExternalChainName → JsString → ContractTokenInfo)
    (order : RedemptionOrder) : ℚ :=
  value (tokenDecimals tokenInfo order.walletChain order.contractAddress) order.walletAmount

/-- A redemption request that was accepted; its order is the first row it adds. -/
structure AcceptedRedemption (env : ServiceEnv)
    (tokenInfo : ExternalChainName → JsString → ContractTokenInfo) where
  fromTrJson : RedemptionV2Tr
  before : ServiceStore
  after : ServiceStore
  orderId : JsString
  runs : (redemptionV2 env fromTrJson).Runs (env.answersWith tokenInfo) before (.ok orderId) after
  order : RedemptionOrder
  stored : after.redemptionOrders[before.redemptionOrders.length]? = some order

/-- The row of an accepted request fits its columns, and has the amounts of the detail that the
first step of the request computed. -/
theorem redemptionV2_detail {fromTrJson : RedemptionV2Tr} {orderId : JsString}
    {order : RedemptionOrder}
    (hrun : (redemptionV2 env fromTrJson).Runs (env.answersWith tokenInfo) s (.ok orderId) s')
    (hstored : s'.redemptionOrders[s.redemptionOrders.length]? = some order) :
    ∃ detail t, (getRedemptionTransDetailV2 env fromTrJson).Runs (env.answersWith tokenInfo) s
        (.ok detail) t ∧
      order.FitsColumns ∧ order.amounts = detail.amounts ∧
      order.walletChain = detail.toDetail.chainName ∧
      order.contractAddress = detail.toDetail.contractAddress := by
  simp only [redemptionV2, runs_bind_ok] at hrun
  obtain ⟨detail, t₁, hdetail, _, t₂, hverify, order', t₃, hcreate, hpure⟩ := hrun
  obtain ⟨_, rfl⟩ := runs_pure.1 hpure
  have hread := (reads_getRedemptionTransDetailV2 _ _ _ _ (runs_answers hdetail)).trans _ _ _
    (reads_verifyRedemptionParamV2 _ _ _ _ (runs_answers hverify))
  have hcreate := runs_answers hcreate
  obtain ⟨_, hok, hcreated⟩ | ⟨⟨e, herror⟩, _⟩ := createRedemptionOrderV2_runs hcreate
  · cases hok
    have hsame : order' = order := by
      rw [hcreated.row, hread.redemptionOrders] at hstored
      simpa using hstored
    rw [← hsame]
    exact ⟨detail, t₁, hdetail, hcreated.fits, createRedemptionOrderV2_amounts hcreate⟩
  · cases herror

/-- The payout and the fees are covered by what was burned. -/
theorem redemptionV2_payout_le (hsdk : RescalesDecimals env.sdk) {fromTrJson : RedemptionV2Tr}
    {orderId : JsString} {order : RedemptionOrder}
    (hrun : (redemptionV2 env fromTrJson).Runs (env.answersWith tokenInfo) s (.ok orderId) s')
    (hstored : s'.redemptionOrders[s.redemptionOrders.length]? = some order)
    (hratio : 0 ≤ order.amounts.ratio) :
    order.payout tokenInfo + order.amounts.fees / 10 ^ 8 ≤ value 8 order.redemptionAmount := by
  obtain ⟨detail, t, hdetail, _, hamounts, hchain, hcontract⟩ := redemptionV2_detail hrun hstored
  have hsettled := getRedemptionTransDetailV2_ok hdetail
  rw [RedemptionTransDetail.tokenDecimals, ← hamounts, ← hchain, ← hcontract] at hsettled
  exact hsettled.value_le hsdk hratio

/-! ## Sums -/

/-- A bound on every recharge is a bound on their sum. -/
theorem sum_minted_le (hsdk : RescalesDecimals env.sdk) (hdev : env.rechargeDevTest = false)
    (recharges : List (AcceptedRecharge env tokenInfo)) :
    value 8 (recharges.map (·.order.rechargeAmount)).sum ≤
      (recharges.map (·.order.deposit tokenInfo)).sum := by
  rw [value_sum, List.map_map]
  exact List.sum_le_sum fun recharge _ => rechargeV2_minted_le hsdk hdev recharge.runs recharge.stored

theorem sum_payout_le (hsdk : RescalesDecimals env.sdk)
    (redemptions : List (AcceptedRedemption env tokenInfo))
    (hratio : ∀ redemption ∈ redemptions, 0 ≤ redemption.order.amounts.ratio) :
    (redemptions.map (·.order.payout tokenInfo)).sum +
        ((redemptions.map (·.order.amounts.fees)).sum : Int) / 10 ^ 8 ≤
      value 8 (redemptions.map (·.order.redemptionAmount)).sum := by
  induction redemptions with
  | nil => simp [value]
  | cons redemption redemptions ih =>
    have hhead := redemptionV2_payout_le hsdk redemption.runs redemption.stored
      (hratio redemption (List.mem_cons_self ..))
    have htail := ih fun r hr => hratio r (List.mem_cons_of_mem _ hr)
    simp only [List.map_cons, List.sum_cons, value_add, Int.cast_add, add_div]
    linarith only [hhead, htail]

/-- The deposits that the payouts leave cover the fees. -/
def FeesCovered (recharges : List (AcceptedRecharge env tokenInfo))
    (redemptions : List (AcceptedRedemption env tokenInfo)) : Prop :=
  ((redemptions.map (·.order.amounts.fees)).sum : Int) / (10 ^ 8 : ℚ) ≤
    (recharges.map (·.order.deposit tokenInfo)).sum -
      (redemptions.map (·.order.payout tokenInfo)).sum

/-- **Conservation.** Outside the development test, the deposits that the payouts leave cover the
fees, when no more is burned than was minted. -/
theorem value_conserved (env : ServiceEnv)
    (tokenInfo : ExternalChainName → JsString → ContractTokenInfo) (hsdk : RescalesDecimals env.sdk)
    (hdev : env.rechargeDevTest = false) (recharges : List (AcceptedRecharge env tokenInfo))
    (redemptions : List (AcceptedRedemption env tokenInfo))
    (hratio : ∀ redemption ∈ redemptions, 0 ≤ redemption.order.amounts.ratio)
    (hburned : (redemptions.map (·.order.redemptionAmount)).sum ≤
      (recharges.map (·.order.rechargeAmount)).sum) :
    FeesCovered recharges redemptions := by
  have hpayout := sum_payout_le hsdk redemptions hratio
  have hmint := sum_minted_le hsdk hdev recharges
  have hvalue := value_mono (d := 8) hburned
  unfold FeesCovered
  linarith only [hpayout, hmint, hvalue]

theorem sample_rescalesDecimals : RescalesDecimals Sample.sdk := by
  have h : ∀ d d' amount, Sample.rescale d d' amount = rescale d d' amount := by
    intro d d' amount
    unfold Sample.rescale rescale
    split
    · next hle => simp [Nat.sub_eq_zero_of_le hle]
    · next hlt => simp [Nat.sub_eq_zero_of_le (Nat.le_of_not_le hlt)]
  exact ⟨fun decimals amount => h decimals 8 amount, fun decimals amount => h 8 decimals amount⟩

/-- The sample environment, and all contracts with 6 decimals. -/
def conservationEnv (rechargeDevTest : Bool) : ServiceEnv := { Sample.env with rechargeDevTest }

/-- A redemption of `1500000` units, of which `1484900` are left after the fees. -/
theorem sample_acceptedRedemption (dev : Bool) :
    ∃ redemption : AcceptedRedemption (conservationEnv dev) Sample.tokenInfo,
      redemption.order.amounts = ⟨1500000, 100, ⟨1, 100⟩, 14849⟩ ∧
        redemption.order.payout Sample.tokenInfo = value 6 14849 := by
  let choices : List ServiceChoice :=
    [.done, .tokenInfo ⟨js "USDT", 6⟩, .done, .amount 1500000, .done, .text (js "0xDeposit"),
      .amount 1500000, .text (js "burn"), .done]
  let fromTrJson : RedemptionV2Tr :=
    ⟨some ⟨js "BIWMETA", js "bApply", some .ETH, some (js "0xReceiver"), some (js "USDT")⟩⟩
  obtain ⟨orderId, after, order, hrun, hstored, hamounts, hdecimals⟩ :
      ∃ orderId after order,
        (redemptionV2 (conservationEnv dev) fromTrJson).exec
          (ServiceOp.answerWith Sample.tokenInfo (conservationEnv dev)) choices
          { config := Sample.config } = some (.ok orderId, after) ∧
        after.redemptionOrders[0]? = some order ∧
        order.amounts = ⟨1500000, 100, ⟨1, 100⟩, 14849⟩ ∧
        tokenDecimals Sample.tokenInfo order.walletChain order.contractAddress = 6 := by
    cases dev <;> exact ⟨_, _, _, rfl, rfl, rfl, rfl⟩
  have hpayout : order.walletAmount = 14849 := congrArg RedemptionAmounts.payout hamounts
  refine ⟨⟨fromTrJson, _, after, orderId, runs_of_exec hrun, order, hstored⟩, hamounts, ?_⟩
  rw [RedemptionOrder.payout, hdecimals, hpayout]

/-- One deposit of `1500000` units of the main coin of TRON, and one redemption. -/
theorem value_conserved_sample :
    ∃ (recharge : AcceptedRecharge (conservationEnv false) Sample.tokenInfo)
      (redemption : AcceptedRedemption (conservationEnv false) Sample.tokenInfo),
      recharge.order.rechargeAmount = 150000000 ∧ redemption.order.redemptionAmount = 1500000 ∧
        FeesCovered [recharge] [redemption] := by
  let choices : List ServiceChoice :=
    [.done, .done, .done, .done, .amount 1500000, .done, .text (js "deposit"), .done, .amount 1]
  let dto : RechargeV2ReqDto := ⟨⟨none, none, some ⟨js "TDeposit"⟩, none⟩, Sample.message⟩
  obtain ⟨orderId, after, order, hrun, hstored, hminted⟩ :
      ∃ orderId after order,
        (rechargeV2 (conservationEnv false) dto).exec
          (ServiceOp.answerWith Sample.tokenInfo (conservationEnv false)) choices
          { config := Sample.config } = some (.ok orderId, after) ∧
        after.rechargeOrders[0]? = some order ∧ order.rechargeAmount = 150000000 :=
    ⟨_, _, _, rfl, rfl, rfl⟩
  obtain ⟨redemption, hamounts, _⟩ := sample_acceptedRedemption false
  have hburned : redemption.order.redemptionAmount = 1500000 :=
    congrArg RedemptionAmounts.burned hamounts
  refine ⟨⟨dto, _, after, orderId, runs_of_exec hrun, order, hstored⟩, redemption, hminted,
    hburned, ?_⟩
  refine value_conserved _ _ sample_rescalesDecimals rfl _ _ ?_ ?_
  · simp [hamounts, RedemptionAmounts.ratio]
  · simp [hburned, hminted]

/-- In the development test a deposit of `5 · 10⁸` units with 18 decimals mints `5 · 10⁸` units with
8 decimals, and a redemption pays out more than was deposited. -/
theorem not_conserved_devTest :
    ¬ ∀ (env : ServiceEnv) (tokenInfo : ExternalChainName → JsString → ContractTokenInfo),
      RescalesDecimals env.sdk → ∀ (recharges : List (AcceptedRecharge env tokenInfo))
        (redemptions : List (AcceptedRedemption env tokenInfo)),
      (∀ redemption ∈ redemptions, 0 ≤ redemption.order.redemptionFee) →
      (∀ redemption ∈ redemptions, 0 ≤ redemption.order.amounts.ratio) →
      (redemptions.map (·.order.redemptionAmount)).sum ≤
        (recharges.map (·.order.rechargeAmount)).sum →
      FeesCovered recharges redemptions := by
  intro h
  let item : RechargeItem := { Sample.item with
    supportChain := ⟨some ⟨true, none, js "0xf563CEa8C4777E2E32629a9FBba7B1E91C182e56", js "ETH"⟩,
      none, none⟩ }
  let choices : List ServiceChoice := [.done, .done, .done, .done, .done, .amount 1]
  let dto : RechargeV2ReqDto := ⟨⟨none, none, none, none⟩, Sample.message⟩
  obtain ⟨orderId, after, order, hrun, hstored, hminted, hdeposit⟩ :
      ∃ orderId after order,
        (rechargeV2 (conservationEnv true) dto).exec
          (ServiceOp.answerWith Sample.tokenInfo (conservationEnv true)) choices
          { config := [(js "BIWMETA", [(js "USDT", item)])] } = some (.ok orderId, after) ∧
        after.rechargeOrders[0]? = some order ∧ order.rechargeAmount = 5 * 100000000 ∧
        order.deposit Sample.tokenInfo = value 18 (5 * 100000000) := ⟨_, _, _, rfl, rfl, rfl, rfl⟩
  obtain ⟨redemption, hamounts, hpayout⟩ := sample_acceptedRedemption true
  have hburned : redemption.order.redemptionAmount = 1500000 :=
    congrArg RedemptionAmounts.burned hamounts
  have hfee : redemption.order.redemptionFee = 100 :=
    congrArg RedemptionAmounts.redemptionFee hamounts
  let recharge : AcceptedRecharge (conservationEnv true) Sample.tokenInfo :=
    ⟨dto, _, after, orderId, runs_of_exec hrun, order, hstored⟩
  have hcovered := h _ _ sample_rescalesDecimals [recharge] [redemption] (by simp [hfee])
    (by simp [hamounts, RedemptionAmounts.ratio]) (by simp [hburned, hminted, recharge])
  simp only [FeesCovered, List.map_cons, List.map_nil, List.sum_cons, List.sum_nil, hpayout, hamounts,
    recharge, hdeposit] at hcovered
  norm_num [RedemptionAmounts.fees, RedemptionAmounts.ratio, value] at hcovered

end CotServer
