import Mathlib.Algebra.BigOperators.Ring.Finset
import CotServer.Verify.Conservation

/-!
# The fees of a redemption

What a request burns and what it is charged are the terms that the config has for it. The amount
that the fees leave is checked before it is converted to the payout token. The validator of recharge
configs does not look at the redemption of an item; that no fee is negative is left to the columns
of the row.
-/

namespace CotServer

open Async Service RedemptionService Decimals

variable {env : ServiceEnv} {tokenInfo : ExternalChainName → JsString → ContractTokenInfo}

/-- The row of an accepted redemption has the amounts of the terms of its request. -/
theorem AcceptedRedemption.terms (redemption : AcceptedRedemption env tokenInfo) :
    ∃ terms,
      redemptionTerms env.sdk redemption.before.config redemption.fromTrJson = .ok terms ∧
      terms.redemptionRatio.denominator ≠ 0 ∧ 0 < terms.net terms.burned ∧
      redemption.order.amounts = terms.amounts env.sdk (terms.decimals tokenInfo) := by
  obtain ⟨detail, t, hdetail, _, horder, _⟩ := redemptionV2_detail redemption.runs redemption.stored
  obtain ⟨terms, hterms, hdenominator, hpositive, hamounts, _⟩ :=
    getRedemptionTransDetailV2_terms hdetail
  exact ⟨terms, hterms, hdenominator, hpositive, horder.trans hamounts⟩

theorem AcceptedRedemption.fits (redemption : AcceptedRedemption env tokenInfo) :
    redemption.order.FitsColumns := by
  obtain ⟨detail, t, _, hfits, _⟩ := redemptionV2_detail redemption.runs redemption.stored
  exact hfits

/-! ## The payout after the conversion -/

/-- What is burned covers both fees and one unit of the token that is paid out. -/
def RedemptionTerms.CoversUnit (terms : RedemptionTerms) (decimals : Nat) : Prop :=
  terms.redemptionFee +
      (terms.burned * terms.redemptionRatio.numerator).tdiv terms.redemptionRatio.denominator +
      10 ^ (8 - decimals) ≤ terms.burned

theorem RedemptionFees.toAmount_pos_iff {sdk : WalletSdk} (hsdk : RescalesDecimals sdk)
    {fees : RedemptionFees} {decimals amount : Nat} (hpositive : 0 < fees.net amount) :
    0 < fees.toAmount sdk decimals amount ↔ (10 ^ (8 - decimals) : Int) ≤ fees.net amount := by
  rw [toAmount, hsdk.transformDecimalToContract, rescale_pos_iff]
  have hcast : ((10 ^ (8 - decimals) : Nat) : Int) = 10 ^ (8 - decimals) := by push_cast; rfl
  omega

/-- A redemption pays out something when its amount covers the fees and one unit of the token. -/
theorem walletAmount_pos_iff (env : ServiceEnv)
    (tokenInfo : ExternalChainName → JsString → ContractTokenInfo) (hsdk : RescalesDecimals env.sdk)
    (redemption : AcceptedRedemption env tokenInfo) :
    ∃ terms,
      redemptionTerms env.sdk redemption.before.config redemption.fromTrJson = .ok terms ∧
      (0 < redemption.order.walletAmount ↔ terms.CoversUnit (terms.decimals tokenInfo)) := by
  obtain ⟨terms, hterms, _, hpositive, hamounts⟩ := redemption.terms
  refine ⟨terms, hterms, ?_⟩
  have hpayout : redemption.order.walletAmount =
      terms.toAmount env.sdk (terms.decimals tokenInfo) terms.burned :=
    congrArg RedemptionAmounts.payout hamounts
  rw [hpayout, RedemptionFees.toAmount_pos_iff hsdk hpositive]
  unfold RedemptionTerms.CoversUnit RedemptionFees.net RedemptionFees.minusFee
  omega

theorem walletAmount_pos_sample :
    ∃ redemption : AcceptedRedemption (conservationEnv false) Sample.tokenInfo, ∃ terms,
      redemptionTerms Sample.sdk redemption.before.config redemption.fromTrJson = .ok terms ∧
      (0 < redemption.order.walletAmount ↔ terms.CoversUnit (terms.decimals Sample.tokenInfo)) := by
  obtain ⟨redemption, _⟩ := sample_acceptedRedemption false
  exact ⟨redemption, walletAmount_pos_iff _ _ sample_rescalesDecimals redemption⟩

/-- The sample item with another fixed fee for TRON. -/
def tronFeeConfig (fee : Int) : RechargeObject :=
  [(js "BIWMETA", [(js "USDT", { Sample.item with
    redemption := { Sample.item.redemption with fee := [(js "TRON", fee)] } })])]

/-- A burn of `1500000` units for the main coin of TRON. -/
def tronRedemption : RedemptionV2Tr :=
  ⟨some ⟨js "BIWMETA", js "bApply", some .TRON, some (js "TReceiver"), some (js "TRX")⟩⟩

def tronChoices : List ServiceChoice :=
  [.done, .done, .amount 1500000, .done, .text (js "TDeposit"), .amount 1500000,
    .text (js "burn"), .done]

/-- The fees leave `50` units of `10⁻⁸`, which is nothing in the `6` decimals of TRX. -/
theorem not_walletAmount_pos :
    ¬ ∀ (env : ServiceEnv) (tokenInfo : ExternalChainName → JsString → ContractTokenInfo),
      RescalesDecimals env.sdk → ∀ redemption : AcceptedRedemption env tokenInfo,
        0 < redemption.order.walletAmount := by
  intro h
  obtain ⟨orderId, after, order, hrun, hstored, hpayout⟩ :
      ∃ orderId after order,
        (redemptionV2 (conservationEnv false) tronRedemption).exec
          (ServiceOp.answerWith Sample.tokenInfo (conservationEnv false)) tronChoices
          { config := tronFeeConfig 1484950 } = some (.ok orderId, after) ∧
        after.redemptionOrders[0]? = some order ∧ order.walletAmount = 0 :=
    ⟨_, _, _, rfl, rfl, rfl⟩
  have hpositive := h _ _ sample_rescalesDecimals
    ⟨tronRedemption, _, after, orderId, runs_of_exec hrun, order, hstored⟩
  exact absurd hpayout (Nat.pos_iff_ne_zero.1 hpositive)

/-! ## What is paid before the conversion -/

/-- Both fees are taken off, and no more than the burned amount is paid. -/
structure RedemptionTerms.Sound (terms : RedemptionTerms) : Prop where
  net_pos : 0 < terms.net terms.burned
  net_le : terms.net terms.burned ≤ terms.burned
  redemptionFee : 0 ≤ terms.redemptionFee
  minusFee : 0 ≤ terms.minusFee terms.burned
  denominator : terms.redemptionRatio.denominator ≠ 0

namespace RedemptionFees

variable {fees : RedemptionFees}

/-- Two redemptions instead of one save a unit of the ratio fee and cost the fixed fee again. -/
theorem net_add_le (hnumerator : 0 ≤ fees.redemptionRatio.numerator)
    (hdenominator : 0 < fees.redemptionRatio.denominator) (a b : Nat) :
    fees.net a + fees.net b ≤ fees.net (a + b) + (1 - fees.redemptionFee) := by
  have hloss := tdiv_add_le (Int.mul_nonneg (Int.natCast_nonneg a) hnumerator)
    (Int.mul_nonneg (Int.natCast_nonneg b) hnumerator) hdenominator.le
  rw [← Int.add_mul] at hloss
  unfold net minusFee
  rw [Int.natCast_add]
  omega

theorem sum_net_le (hnumerator : 0 ≤ fees.redemptionRatio.numerator)
    (hdenominator : 0 < fees.redemptionRatio.denominator) {amounts : List Nat}
    (hne : amounts ≠ []) :
    (amounts.map fees.net).sum ≤
      fees.net amounts.sum + (amounts.length - 1) * (1 - fees.redemptionFee) := by
  induction amounts with
  | nil => exact absurd rfl hne
  | cons a amounts ih =>
    rcases eq_or_ne amounts [] with rfl | hrest
    · simp
    have hsum := ih hrest
    have hadd := net_add_le hnumerator hdenominator a amounts.sum
    simp only [List.map_cons, List.sum_cons, List.length_cons, Nat.cast_add, Nat.cast_one]
    linarith only [hsum, hadd]

/-- The conversion does not gain from a split either. -/
theorem sum_toAmount_le {sdk : WalletSdk} (hsdk : RescalesDecimals sdk) (decimals : Nat)
    {amounts : List Nat} (haccepted : ∀ a ∈ amounts, 0 < fees.net a)
    (hsum : (amounts.map fees.net).sum ≤ fees.net amounts.sum) :
    (amounts.map (fees.toAmount sdk decimals)).sum ≤ fees.toAmount sdk decimals amounts.sum := by
  have hnets : ((amounts.map fun a => (fees.net a).toNat).sum : Int) = (amounts.map fees.net).sum := by
    rw [Nat.cast_list_sum, List.map_map]
    refine congrArg List.sum (List.map_congr_left fun a ha => ?_)
    exact Int.toNat_of_nonneg (haccepted a ha).le
  have hconvert : fees.toAmount sdk decimals = fun a => rescale 8 decimals (fees.net a).toNat := by
    funext a
    exact hsdk.transformDecimalToContract _ _
  calc (amounts.map (fees.toAmount sdk decimals)).sum
      = ((amounts.map fun a => (fees.net a).toNat).map (rescale 8 decimals)).sum := by
        rw [hconvert, List.map_map]
        rfl
    _ ≤ rescale 8 decimals (amounts.map fun a => (fees.net a).toNat).sum := sum_rescale_le 8 _ _
    _ ≤ rescale 8 decimals (fees.net amounts.sum).toNat := rescale_mono (by omega)
    _ = fees.toAmount sdk decimals amounts.sum := by rw [hconvert]

end RedemptionFees

/-- Splitting a redemption saves at most a unit for each part after the first, and costs the fixed
fee for it. -/
theorem split_redemption_le (sdk : WalletSdk) (hsdk : RescalesDecimals sdk) (fees : RedemptionFees)
    (hnumerator : 0 ≤ fees.redemptionRatio.numerator)
    (hdenominator : 0 < fees.redemptionRatio.denominator) (amounts : List Nat)
    (hne : amounts ≠ []) (haccepted : ∀ a ∈ amounts, 0 < fees.net a) :
    (amounts.map fees.net).sum ≤
        fees.net amounts.sum + (amounts.length - 1) * (1 - fees.redemptionFee) ∧
      (1 ≤ fees.redemptionFee → ∀ decimals,
        (amounts.map (fees.toAmount sdk decimals)).sum ≤
          fees.toAmount sdk decimals amounts.sum) := by
  have hnet := RedemptionFees.sum_net_le hnumerator hdenominator hne
  refine ⟨hnet, ?_⟩
  intro hone decimals
  apply RedemptionFees.sum_toAmount_le hsdk decimals haccepted
  have hlength : (1 : Int) ≤ amounts.length := by
    have hpos := List.length_pos_iff.2 hne
    omega
  have hcost : (amounts.length - 1 : Int) * (1 - fees.redemptionFee) ≤ 0 :=
    mul_nonpos_of_nonneg_of_nonpos (by omega) (by omega)
  omega

theorem split_redemption_sample :
    ([1500000, 150].map (RedemptionFees.toAmount ⟨100, ⟨1, 100⟩⟩ Sample.sdk 6)).sum ≤
      RedemptionFees.toAmount ⟨100, ⟨1, 100⟩⟩ Sample.sdk 6 1500150 :=
  (split_redemption_le Sample.sdk sample_rescalesDecimals ⟨100, ⟨1, 100⟩⟩ (by decide) (by decide)
    [1500000, 150] (by decide) (by decide)).2 (by decide) 6

end CotServer
