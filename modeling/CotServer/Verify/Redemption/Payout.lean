import CotServer.Theory.Decimals
import CotServer.Verify.Redemption.Request

/-!
# What a redemption pays out

`getRedemptionTransDetailV2` takes the two fees off the burned amount and converts the rest to the
decimals of the token that is paid out. Neither the truncation of the ratio fee nor that of the
conversion gives the user more than was burned.
-/

namespace CotServer

open Async Service RedemptionService Decimals

/-- The two conversions of the SDK, between the decimals of a token and the 8 decimals of the
internal chains. -/
structure RescalesDecimals (sdk : WalletSdk) : Prop where
  transformDecimalToBCF : ∀ decimals amount,
    sdk.transformDecimalToBCF decimals amount = rescale decimals 8 amount
  transformDecimalToContract : ∀ decimals amount,
    sdk.transformDecimalToContract decimals amount = rescale 8 decimals amount

variable {env : ServiceEnv} {tokenInfo : ExternalChainName → JsString → ContractTokenInfo}
  {s s' : ServiceStore}

theorem getMainAssetDecimals_ok {chainName : ExternalChainName} {decimals : Nat}
    (h : RedemptionHelper.getMainAssetDecimals chainName = .ok decimals) :
    decimals = if chainName = .TRON then 6 else 18 := by
  cases chainName <;> cases h <;> rfl

theorem decimalsOf_ok {chainName : ExternalChainName} {contractAddress : Option JsString}
    {decimals : Nat}
    (h : (decimalsOf chainName contractAddress).Runs (env.answersWith tokenInfo) s (.ok decimals)
      s') : decimals = tokenDecimals tokenInfo chainName contractAddress := by
  unfold decimalsOf at h
  unfold tokenDecimals
  split at h
  · next hcontract =>
    obtain ⟨info, t, hcall, hpure⟩ := runs_bind_ok.1 h
    cases (runs_pure.1 hpure).1
    rw [if_pos hcontract, answersWith_tokenInfo (runs_call.1 hcall)]
  · next hcontract =>
    rw [if_neg hcontract]
    exact getMainAssetDecimals_ok (runs_settle.1 h).1.symm

/-- The decimals of what is paid out. -/
def RedemptionTransDetail.tokenDecimals (detail : RedemptionTransDetail)
    (tokenInfo : ExternalChainName → JsString → ContractTokenInfo) : Nat :=
  CotServer.tokenDecimals tokenInfo detail.toDetail.chainName detail.toDetail.contractAddress

/-! ## The amounts of an order -/

/-- What was burned, what is taken off and what is left for the user. -/
structure RedemptionAmounts where
  burned : Nat
  redemptionFee : Int
  redemptionRatio : Fraction
  payout : Nat

def RedemptionTransDetail.amounts (detail : RedemptionTransDetail) : RedemptionAmounts :=
  ⟨detail.fromDetail.amount, detail.redemptionFee, detail.redemptionRatio, detail.toAmount⟩

def RedemptionOrder.amounts (order : RedemptionOrder) : RedemptionAmounts :=
  ⟨order.redemptionAmount, order.redemptionFee, order.redemptionRatio, order.walletAmount⟩

namespace RedemptionAmounts

/-- The payout is what both fees leave of the burned amount, in the decimals of its token. -/
def Settled (sdk : WalletSdk) (decimals : Nat) (a : RedemptionAmounts) : Prop :=
  ∃ minusFee : Int,
    bigintDiv (a.burned * a.redemptionRatio.numerator) a.redemptionRatio.denominator =
        .ok minusFee ∧
      0 < a.burned - a.redemptionFee - minusFee ∧
      a.payout = sdk.transformDecimalToContract decimals
        (a.burned - a.redemptionFee - minusFee).toNat

/-- The ratio as a rational number. -/
def ratio (a : RedemptionAmounts) : ℚ :=
  a.redemptionRatio.numerator / a.redemptionRatio.denominator

/-- The two fees, in units of `10⁻⁸`. -/
def fees (a : RedemptionAmounts) : Int := a.redemptionFee + ⌊a.burned * a.ratio⌋

/-- The payout and the fees are covered by what was burned. -/
theorem Settled.value_le {sdk : WalletSdk} {decimals : Nat} {a : RedemptionAmounts}
    (h : a.Settled sdk decimals) (hsdk : RescalesDecimals sdk) (hratio : 0 ≤ a.ratio) :
    value decimals a.payout + a.fees / 10 ^ 8 ≤ value 8 a.burned := by
  obtain ⟨minusFee, hdiv, hpositive, hpayout⟩ := h
  have hfee : minusFee = ⌊a.burned * a.ratio⌋ := by
    unfold bigintDiv at hdiv
    split at hdiv
    · cases hdiv
    · cases hdiv
      have hquot : (a.burned : ℚ) * a.ratio =
          ((a.burned * a.redemptionRatio.numerator : Int) : ℚ) / a.redemptionRatio.denominator := by
        rw [ratio, Int.cast_mul, Int.cast_natCast, mul_div_assoc]
      rw [hquot]
      refine tdiv_eq_floor ?_
      rw [← hquot]
      positivity
  have hrest : (((a.burned - a.redemptionFee - minusFee).toNat : Int) : ℚ) = a.burned - a.fees := by
    rw [Int.toNat_of_nonneg hpositive.le, fees, ← hfee]
    push_cast
    ring
  have hconvert : value decimals a.payout ≤ (a.burned - a.fees : ℚ) / 10 ^ 8 := by
    rw [hpayout, hsdk.transformDecimalToContract, ← hrest]
    exact value_rescale_le 8 decimals _
  calc value decimals a.payout + a.fees / 10 ^ 8
      ≤ (a.burned - a.fees : ℚ) / 10 ^ 8 + a.fees / 10 ^ 8 := by gcongr
    _ = value 8 a.burned := by rw [value]; ring

end RedemptionAmounts

/-! ## The terms of a request -/

/-- The two fees of a redemption. -/
structure RedemptionFees where
  redemptionFee : Int
  redemptionRatio : Fraction

namespace RedemptionFees

/-- What the ratio takes of an amount, with the division of `bigint`s. -/
def minusFee (fees : RedemptionFees) (amount : Nat) : Int :=
  (amount * fees.redemptionRatio.numerator).tdiv fees.redemptionRatio.denominator

/-- What both fees leave of an amount. -/
def net (fees : RedemptionFees) (amount : Nat) : Int :=
  amount - fees.redemptionFee - fees.minusFee amount

/-- What is paid out for an amount. -/
def toAmount (fees : RedemptionFees) (sdk : WalletSdk) (decimals amount : Nat) : Nat :=
  sdk.transformDecimalToContract decimals (fees.net amount).toNat

end RedemptionFees

/-- What a request burns, what it is paid in, and the fees that the config takes for it. -/
structure RedemptionTerms extends RedemptionFees where
  burned : Nat
  chainName : ExternalChainName
  contractAddress : Option JsString

/-- The terms of a request under a config. -/
def redemptionTerms (sdk : WalletSdk) (config : RechargeObject) (fromTrJson : RedemptionV2Tr) :
    Except Err RedemptionTerms := do
  let some (fromDetail, trJson) ← OrderHelper.getInternalChainDestroyAssetDetail sdk fromTrJson
    | throw (.error (js "getInternalChainDetail error. \x7b\x7d"))
  let item ← RechargeHelper.checkChainAssetItem config fromDetail.chainName fromDetail.assetType
  let toDetail ← RedemptionHelper.getToTrDetail trJson item
  let redemptionRatio ← sdk.toFraction item.redemption.radioFee
  let redemptionFee ← bigintOf (item.redemption.fee.get toDetail.chainName.toJs)
  return {
    redemptionFee
    redemptionRatio
    burned := fromDetail.amount
    chainName := toDetail.chainName
    contractAddress := toDetail.contractAddress }

namespace RedemptionTerms

/-- The decimals of what is paid out. -/
def decimals (terms : RedemptionTerms)
    (tokenInfo : ExternalChainName → JsString → ContractTokenInfo) : Nat :=
  tokenDecimals tokenInfo terms.chainName terms.contractAddress

/-- The amounts that a request comes to. -/
def amounts (terms : RedemptionTerms) (sdk : WalletSdk) (decimals : Nat) : RedemptionAmounts :=
  ⟨terms.burned, terms.redemptionFee, terms.redemptionRatio,
    terms.toAmount sdk decimals terms.burned⟩

end RedemptionTerms

theorem bigintDiv_ok {a b q : Int} (h : bigintDiv a b = .ok q) : b ≠ 0 ∧ q = a.tdiv b := by
  unfold bigintDiv at h
  split at h
  · cases h
  · next hb =>
    cases h
    exact ⟨hb, rfl⟩

/-- A detail has the amounts of its terms; the division was one, and the fees leave something. -/
theorem getRedemptionTransDetailV2_terms {fromTrJson : RedemptionV2Tr}
    {detail : RedemptionTransDetail}
    (h : (getRedemptionTransDetailV2 env fromTrJson).Runs (env.answersWith tokenInfo) s
      (.ok detail) s') :
    ∃ terms, redemptionTerms env.sdk s.config fromTrJson = .ok terms ∧
      terms.redemptionRatio.denominator ≠ 0 ∧ 0 < terms.net terms.burned ∧
      detail.amounts = terms.amounts env.sdk (terms.decimals tokenInfo) ∧
      detail.toDetail.chainName = terms.chainName ∧
      detail.toDetail.contractAddress = terms.contractAddress := by
  rw [getRedemptionTransDetailV2, runs_bind_ok] at h
  obtain ⟨config, _, hconfig, h⟩ := h
  obtain ⟨rfl, rfl⟩ := answers_config.1 (answersWith_answers (runs_call.1 hconfig))
  obtain ⟨fromDetail, _, hdecode, h⟩ := runs_bind_ok.1 h
  obtain ⟨hfrom, rfl⟩ := runs_settle.1 hdecode
  cases fromDetail with
  | none => cases h.1
  | some fromDetail =>
    simp only [runs_bind_ok, runs_settle, runs_throwIf, runs_pure] at h
    obtain ⟨item, _, ⟨hitem, _⟩, toDetail, _, ⟨hto, _⟩, _, _, _, decimals, _, hdecimals, ratio, _,
      ⟨hratio, rfl⟩, fee, _, ⟨hfee, rfl⟩, minusFee, _, ⟨hminusFee, rfl⟩, _, _,
      ⟨⟨_, ⟨⟩⟩ | ⟨hpositive, _⟩, rfl⟩, hdetail, _⟩ := h
    cases hdetail
    obtain ⟨hdenominator, rfl⟩ := bigintDiv_ok hminusFee.symm
    refine ⟨⟨⟨fee, ratio⟩, fromDetail.1.amount, toDetail.chainName, toDetail.contractAddress⟩, ?_,
      hdenominator, Int.not_le.1 hpositive, ?_, rfl, rfl⟩
    · simp only [redemptionTerms, Bind.bind, Except.bind, ← hfrom, ← hitem, ← hto, ← hratio, ← hfee]
      rfl
    · rw [decimalsOf_ok hdecimals]
      rfl

theorem getRedemptionTransDetailV2_ok {fromTrJson : RedemptionV2Tr}
    {detail : RedemptionTransDetail}
    (h : (getRedemptionTransDetailV2 env fromTrJson).Runs (env.answersWith tokenInfo) s
      (.ok detail) s') :
    detail.amounts.Settled env.sdk (detail.tokenDecimals tokenInfo) := by
  obtain ⟨terms, _, hdenominator, hpositive, hamounts, hchain, hcontract⟩ :=
    getRedemptionTransDetailV2_terms h
  rw [RedemptionTransDetail.tokenDecimals, hamounts, hchain, hcontract]
  exact ⟨terms.minusFee terms.burned, if_neg hdenominator, hpositive, rfl⟩

/-- The row has the amounts, the chain and the contract of the detail. -/
theorem createRedemptionOrderV2_amounts {fromTrJson : RedemptionV2Tr}
    {detail : RedemptionTransDetail} {order : RedemptionOrder}
    (h : (createRedemptionOrderV2 env detail fromTrJson).Runs env.answers s (.ok order) s') :
    order.amounts = detail.amounts ∧ order.walletChain = detail.toDetail.chainName ∧
      order.contractAddress = detail.toDetail.contractAddress := by
  simp only [createRedemptionOrderV2, runs_bind_ok, runs_pure] at h
  obtain ⟨entityId, _, _, txId, _, _, _, _, _, horder, _⟩ := h
  cases horder
  exact ⟨rfl, rfl, rfl⟩

end CotServer
