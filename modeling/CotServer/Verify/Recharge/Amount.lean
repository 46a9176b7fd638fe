import CotServer.Model.Recharge.Order
import CotServer.Verify.Conservation
import CotServer.Verify.Order.Handlers

/-!
# What a recharge mints

The amount of a deposit is converted to 8 decimals and stored with the order. A redemption checks
what it pays; nothing checks the minted amount, which can be truncated to nothing or be more than
its column holds.
-/

namespace CotServer

open Async Service RechargeService Decimals

variable {env : ServiceEnv} {tokenInfo : ExternalChainName → JsString → ContractTokenInfo}
  {s : ServiceStore}

/-! ## The order of a request -/

/-- The call hands no issue to the repository. -/
def ServiceOp.savesNoIssue : ServiceOp → Bool
  | saveRechargeOrder order => order.rechargeType ≠ .ISSUE
  | _ => true

/-- The function hands no issue to the repository. -/
abbrev SavesNoIssue {α : Type} (env : ServiceEnv)
    (tokenInfo : ExternalChainName → JsString → ContractTokenInfo) (p : Service α) : Prop :=
  p.HandsOnly (env.answersWith tokenInfo) fun op => op.savesNoIssue = true

theorem SavesNoIssue.not_handsOut {α : Type} {p : Service α} {order : RechargeOrder}
    (h : SavesNoIssue env tokenInfo p) (htype : order.rechargeType = .ISSUE) :
    ¬ p.HandsOut (env.answersWith tokenInfo) s (.saveRechargeOrder order) := by
  intro hout
  simpa [ServiceOp.savesNoIssue, htype] using h s _ hout

theorem savesNoIssue_externalBalance (chainName : ExternalChainName) (address : JsString)
    (contractAddress : Option JsString) :
    SavesNoIssue env tokenInfo (externalBalance chainName address contractAddress) := by
  unfold externalBalance
  split
  · exact .call rfl
  · exact .call rfl

theorem savesNoIssue_symbolAndDecimals (chainName : ExternalChainName)
    (contractAddress : Option JsString) :
    SavesNoIssue env tokenInfo (symbolAndDecimals env chainName contractAddress) := by
  unfold symbolAndDecimals
  split
  · split <;> first | exact .pure _ | exact .throw _
  · exact .call rfl

theorem savesNoIssue_getUuid : SavesNoIssue env tokenInfo (getUuid env) := fun _ _ h => h.elim

theorem savesNoIssue_getRechargeTransDetailV2 (fromTrJson : FromTrJson)
    (message : RechargeV2ToTrInfoData) :
    SavesNoIssue env tokenInfo (getRechargeTransDetailV2 env fromTrJson message) := by
  refine .bind (.call rfl) fun b => ?_
  split
  · exact fun _ _ h => h.elim
  · refine .bind (.call rfl) fun config => .bind (.settle _) fun item => ?_
    refine .bind (.throwIf _ _) fun _ => .bind (.throwIf _ _) fun _ => ?_
    refine .bind (.settle _) fun detail => ?_
    cases detail with
    | none => exact .throw _
    | some detail => exact .bind (savesNoIssue_symbolAndDecimals _ _) fun info => .pure _

theorem savesNoIssue_verifyRechargeParamV2 (detail : RechargeTransDetail) :
    SavesNoIssue env tokenInfo (verifyRechargeParamV2 env detail) := by
  refine .bind (.call rfl) fun config => .bind (.settle _) fun _ => .bind (.call rfl) fun b => ?_
  split
  · exact .pure _
  · exact .bind (savesNoIssue_externalBalance _ _ _) fun n => .throwIf _ _

theorem savesNoIssue_createExternalTrans (orderId : JsString) (fromTrJson : FromTrJson)
    (detail : RechargeTransDetail) :
    SavesNoIssue env tokenInfo (createExternalTrans env orderId fromTrJson detail) := by
  refine .bind (.call rfl) fun b => ?_
  split
  · exact fun _ _ h => h.elim
  · exact .bind (.settle _) fun json => .call rfl

theorem savesNoIssue_createRechargeAirDropOrderV2 (detail : RechargeTransDetail) :
    SavesNoIssue env tokenInfo (createRechargeAirDropOrderV2 env detail) := by
  refine .bind (.settle _) fun mainAssetType => .bind (.call rfl) fun balance => ?_
  split
  · exact .pure _
  refine .bind (.call rfl) fun airdrop => ?_
  split
  · exact .bind savesNoIssue_getUuid fun entityId => .call rfl
  · exact .pure _

/-- The order that `createRechargeOrderV2` hands to the repository. -/
theorem createRechargeOrderV2_handsOut {fromTrJson : FromTrJson} {detail : RechargeTransDetail}
    {order : RechargeOrder} (htype : order.rechargeType = .ISSUE)
    (h : (createRechargeOrderV2 env detail fromTrJson).HandsOut (env.answersWith tokenInfo) s
      (.saveRechargeOrder order)) : order.rechargeAmount = detail.toAmount := by
  rw [createRechargeOrderV2, handsOut_bind] at h
  obtain hfirst | ⟨entityId, t, _, h⟩ := h
  · exact hfirst.elim
  rw [handsOut_bind] at h
  obtain hfirst | ⟨txId, t', _, h⟩ := h
  · exact absurd hfirst ((savesNoIssue_createExternalTrans _ _ _).not_handsOut htype)
  rw [handsOut_bind] at h
  obtain hsave | ⟨_, _, _, h⟩ := h
  · cases handsOut_call.1 hsave
    rfl
  · exact h.elim

/-- An issue that a request hands to the repository has the amount of the detail it decoded. -/
theorem rechargeV2_handsOut {dto : RechargeV2ReqDto} {order : RechargeOrder}
    (htype : order.rechargeType = .ISSUE)
    (h : (rechargeV2 env dto).HandsOut (env.answersWith tokenInfo) s (.saveRechargeOrder order)) :
    ∃ detail t, (getRechargeTransDetailV2 env dto.fromTrJson dto.message).Runs
        (env.answersWith tokenInfo) s (.ok detail) t ∧ order.rechargeAmount = detail.toAmount := by
  rw [rechargeV2, handsOut_bind] at h
  obtain hfirst | ⟨detail, t, hdetail, h⟩ := h
  · exact absurd hfirst ((savesNoIssue_getRechargeTransDetailV2 _ _).not_handsOut htype)
  refine ⟨detail, t, hdetail, ?_⟩
  rw [handsOut_bind] at h
  obtain hfirst | ⟨_, t', _, h⟩ := h
  · exact absurd hfirst ((savesNoIssue_verifyRechargeParamV2 _).not_handsOut htype)
  rw [handsOut_bind] at h
  obtain hcreate | ⟨order', t'', _, h⟩ := h
  · exact createRechargeOrderV2_handsOut htype hcreate
  rw [handsOut_bind] at h
  obtain hfirst | ⟨_, _, _, h⟩ := h
  · exact absurd hfirst ((savesNoIssue_createRechargeAirDropOrderV2 _).not_handsOut htype)
  · exact h.elim

/-! ## Mintable orders -/

/-- The object is one of the order: the worker changes its state, its transaction and the mark that
this is on chain. -/
def RechargeOrder.IsObject (order : RechargeOrder) (obj : RechargeOrderObj) : Prop :=
  obj.entity = { order with
    state := obj.entity.state
    rechargeTxId := obj.entity.rechargeTxId
    rechargeTxOnChain := obj.entity.rechargeTxOnChain }

/-- The consumer of a to-tx-start message asks for the transfer. -/
def AsksTransfer (worker : OrderEnv) (s : OrderStore RechargeOrder) : Prop :=
  ∃ k, (((RechargeOrder.rechargeOrderMgr worker).deliver .TO_TX_START).segment s).1 =
    .await (.publishOrderEvent (.TRY_TRANSFER (some .RECHARGEV2_ACCOUNT))) k

/-- The amount fits its column, and the worker asks for the transfer of every object of the order
that waits for it. -/
structure RechargeOrder.Mintable (order : RechargeOrder) : Prop where
  pos : 0 < order.rechargeAmount
  fits : order.rechargeAmount < 2 ^ 64
  asks : ∀ (worker : OrderEnv) (s : OrderStore RechargeOrder) (ref : Ref) (obj : RechargeOrderObj),
    s.Live ref obj → order.IsObject obj → obj.curStateId = .INTERNAL_WAIT_ON_CHAIN →
      RechargeOrderObj.isRechargeTxFinish worker obj = false → AsksTransfer worker s

/-- The deposit is one unit of `10⁻⁸` or more, and less than `2 ^ 64` of them. -/
def ExternalTransDetail.Mintable (detail : ExternalTransDetail) (decimals : Nat) : Prop :=
  10 ^ (decimals - 8) ≤ detail.amount ∧
    detail.amount * 10 ^ (8 - decimals) < 2 ^ 64 * 10 ^ (decimals - 8)

theorem asksTransfer {worker : OrderEnv} {s : OrderStore RechargeOrder} {ref : Ref}
    {obj : RechargeOrderObj} (hlive : s.Live ref obj)
    (hstate : obj.curStateId = .INTERNAL_WAIT_ON_CHAIN) (hpos : 0 < obj.entity.rechargeAmount)
    (hfinish : RechargeOrderObj.isRechargeTxFinish worker obj = false) :
    AsksTransfer worker s := by
  have hcallback : (RechargeOrder.InternalWaitOnChain.onToTxStartCallback worker ref).segment s =
      (.await (.publishOrderEvent (.TRY_TRANSFER (some .RECHARGEV2_ACCOUNT))) settle, s) := by
    refine (segment_getObj_bind hlive.2).trans ?_
    rw [if_pos ⟨hpos, by rw [hfinish]; rfl⟩]
    rfl
  have hconsume : ((RechargeOrder.rechargeOrderMgr worker).consume .TO_TX_START).segment s =
      (.await (.publishOrderEvent (.TRY_TRANSFER (some .RECHARGEV2_ACCOUNT))) settle, s) := by
    refine (segment_dispatch hlive).trans ?_
    rw [hstate]
    exact hcallback
  exact ⟨_, congrArg Prod.fst (segment_tryCatch_await hconsume)⟩

/-- The amount of an order that was converted from a deposit is mintable when the deposit is. -/
theorem mintable_iff {sdk : WalletSdk} (hsdk : RescalesDecimals sdk) {order : RechargeOrder}
    {detail : ExternalTransDetail} {decimals : Nat}
    (hamount : order.rechargeAmount = sdk.transformDecimalToBCF decimals detail.amount) :
    order.Mintable ↔ detail.Mintable decimals := by
  rw [hsdk.transformDecimalToBCF] at hamount
  unfold ExternalTransDetail.Mintable
  rw [← rescale_pos_iff, ← rescale_lt_iff, ← hamount]
  constructor
  · intro h
    exact ⟨h.pos, h.fits⟩
  · rintro ⟨hpos, hfits⟩
    refine ⟨hpos, hfits, ?_⟩
    intro worker s ref obj hlive hsame hstate hfinish
    have hpos' : 0 < obj.entity.rechargeAmount := by
      rw [hsame]
      exact hpos
    exact asksTransfer hlive hstate hpos' hfinish

/-- Outside the development test, an issue that a request hands to the repository can be minted
when its deposit can. -/
theorem rechargeV2_mintable_iff (env : ServiceEnv)
    (tokenInfo : ExternalChainName → JsString → ContractTokenInfo) (hsdk : RescalesDecimals env.sdk)
    (hdev : env.rechargeDevTest = false) (dto : RechargeV2ReqDto) (s : ServiceStore)
    (order : RechargeOrder) (htype : order.rechargeType = .ISSUE)
    (hsave : (rechargeV2 env dto).HandsOut (env.answersWith tokenInfo) s
      (.saveRechargeOrder order)) :
    ∃ entry detail, dto.fromTrJson.validated = some entry ∧ entry.decode env.sdk = .ok detail ∧
      (order.Mintable ↔
        detail.Mintable (tokenDecimals tokenInfo detail.chainName detail.contractAddress)) := by
  obtain ⟨detail, t, hdetail, hamount⟩ := rechargeV2_handsOut htype hsave
  have hdecoded := getRechargeTransDetailV2_ok hdev (runs_answers hdetail)
  obtain ⟨item, _, _, hitem⟩ := hdecoded.item
  obtain ⟨entry, hentry, hdecode⟩ := getExternalChainDetail_decodes hitem
  refine ⟨entry, detail.fromDetail, hentry, hdecode, mintable_iff hsdk ?_⟩
  rw [hamount, hdecoded.toAmount, getRechargeTransDetailV2_decimals hdev hdetail,
    RechargeTransDetail.tokenDecimals]

theorem rechargeV2_mintable_sample :
    ∃ order : RechargeOrder, order.rechargeAmount = 150000000 ∧ ∃ entry detail,
      FromTrJson.validated ⟨none, none, some ⟨js "TDeposit"⟩, none⟩ = some entry ∧
        entry.decode Sample.sdk = .ok detail ∧
        (order.Mintable ↔ detail.Mintable
          (tokenDecimals Sample.tokenInfo detail.chainName detail.contractAddress)) := by
  let dto : RechargeV2ReqDto := ⟨⟨none, none, some ⟨js "TDeposit"⟩, none⟩, Sample.message⟩
  let choices : List ServiceChoice :=
    [.done, .done, .done, .done, .amount 1500000, .done, .text (js "deposit")]
  obtain ⟨order, hsave, htype, hamount⟩ :
      ∃ order, (rechargeV2 (conservationEnv false) dto).opAfter
          (ServiceOp.answerWith Sample.tokenInfo (conservationEnv false)) choices
          { config := Sample.config } = some (.saveRechargeOrder order) ∧
        order.rechargeType = .ISSUE ∧ order.rechargeAmount = 150000000 := ⟨_, rfl, rfl, rfl⟩
  exact ⟨order, hamount, rechargeV2_mintable_iff _ _ sample_rescalesDecimals rfl dto _ order htype
    (handsOut_of_opAfter hsave)⟩

/-- A deposit of `1500000` units with 18 decimals is stored as nothing. -/
theorem not_rechargeV2_mintable :
    ¬ ∀ (env : ServiceEnv) (tokenInfo : ExternalChainName → JsString → ContractTokenInfo),
      RescalesDecimals env.sdk → env.rechargeDevTest = false → ∀ (dto : RechargeV2ReqDto)
        (s : ServiceStore) (order : RechargeOrder), order.rechargeType = .ISSUE →
      (rechargeV2 env dto).HandsOut (env.answersWith tokenInfo) s (.saveRechargeOrder order) →
        order.Mintable := by
  intro h
  let item : RechargeItem := { Sample.item with
    supportChain := ⟨some ⟨true, none, js "0xDeposit", js "ETH"⟩, none, none⟩ }
  let dto : RechargeV2ReqDto := ⟨⟨some ⟨js "0xDeposit"⟩, none, none, none⟩, Sample.message⟩
  let choices : List ServiceChoice :=
    [.done, .done, .done, .done, .amount 1500000, .done, .text (js "deposit")]
  obtain ⟨order, hsave, htype, hamount⟩ :
      ∃ order, (rechargeV2 (conservationEnv false) dto).opAfter
          (ServiceOp.answerWith Sample.tokenInfo (conservationEnv false)) choices
          { config := [(js "BIWMETA", [(js "USDT", item)])] } = some (.saveRechargeOrder order) ∧
        order.rechargeType = .ISSUE ∧ order.rechargeAmount = 0 := ⟨_, rfl, rfl, rfl⟩
  have hmintable := h _ _ sample_rescalesDecimals rfl dto _ order htype (handsOut_of_opAfter hsave)
  exact absurd hamount (Nat.pos_iff_ne_zero.1 hmintable.pos)

end CotServer
