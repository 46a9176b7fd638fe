import CotServer.Verify.Recharge.Submit

/-!
# The steps of `rechargeV2`

What a completed run of each step of a recharge request has read and written. The decoding and the
checks only read; `createRechargeOrderV2` saves one transaction and then one row; the airdrop
step at most adds one more row.
-/

namespace CotServer

open Async Service RechargeService

variable {env : ServiceEnv} {tokenInfo : ExternalChainName → JsString → ContractTokenInfo}
  {s s' : ServiceStore}

theorem runs_devTest {b : Bool} :
    isRechargeDevTest.Runs env.answers s (.ok b) s' ↔ b = env.rechargeDevTest ∧ s' = s :=
  runs_call.trans answers_devTest

theorem runs_config {config : RechargeObject} :
    getConfigByKeyForce.Runs env.answers s (.ok config) s' ↔ config = s.config ∧ s' = s :=
  runs_call.trans answers_config

/-! ## Decoding and checking -/

theorem reads_symbolAndDecimals (chainName : ExternalChainName)
    (contractAddress : Option JsString) :
    Reads env (symbolAndDecimals env chainName contractAddress) := by
  unfold symbolAndDecimals
  split
  · split <;> first | exact .pure _ | exact .throw _
  · exact .call rfl

theorem reads_getRechargeTransDetailV2 (fromTrJson : FromTrJson)
    (message : RechargeV2ToTrInfoData) :
    Reads env (getRechargeTransDetailV2 env fromTrJson message) := by
  refine .bind (.call rfl) fun b => ?_
  split
  · exact .bind .random fun n => .bind .getUuid fun id => .pure _
  · refine .bind (.call rfl) fun config => .bind (.settle _) fun item => ?_
    refine .bind (.throwIf _ _) fun _ => .bind (.throwIf _ _) fun _ => ?_
    refine .bind (.settle _) fun detail => ?_
    cases detail with
    | none => exact .throw _
    | some detail => exact .bind (reads_symbolAndDecimals _ _) fun info => .pure _

theorem reads_verifyRechargeParamV2 (detail : RechargeTransDetail) :
    Reads env (verifyRechargeParamV2 env detail) := by
  refine .bind (.call rfl) fun config => .bind (.settle _) fun _ => .bind (.call rfl) fun b => ?_
  split
  · exact .pure _
  · exact .bind (.externalBalance _ _ _) fun n => .throwIf _ _

/-- Outside the development test the detail is decoded from the validated entry, for an enabled
item of the config. -/
structure Decoded (env : ServiceEnv) (config : RechargeObject) (fromTrJson : FromTrJson)
    (message : RechargeV2ToTrInfoData) (detail : RechargeTransDetail) : Prop where
  toDetail : detail.toDetail = message
  toAmount : detail.toAmount =
    env.sdk.transformDecimalToBCF detail.fromDecimals detail.fromDetail.amount
  item : ∃ rechargeItem,
    RechargeHelper.checkChainAssetItem config message.chainName message.assetType =
        .ok rechargeItem ∧
      rechargeItem.enable = true ∧
      OrderHelper.getExternalChainDetail env.sdk fromTrJson rechargeItem =
        .ok (some detail.fromDetail)

theorem getRechargeTransDetailV2_ok {fromTrJson : FromTrJson} {message : RechargeV2ToTrInfoData}
    {detail : RechargeTransDetail} (hdev : env.rechargeDevTest = false)
    (h : (getRechargeTransDetailV2 env fromTrJson message).Runs env.answers s (.ok detail) s') :
    Decoded env s.config fromTrJson message detail := by
  rw [getRechargeTransDetailV2, runs_bind_ok] at h
  obtain ⟨b, t, hb, h⟩ := h
  obtain ⟨rfl, rfl⟩ := runs_devTest.1 hb
  rw [hdev, if_neg (by decide), runs_bind_ok] at h
  obtain ⟨config, t', hconfig, h⟩ := h
  obtain ⟨rfl, rfl⟩ := runs_config.1 hconfig
  simp only [runs_bind_ok, runs_settle, runs_throwIf] at h
  obtain ⟨item, _, ⟨hitem, rfl⟩, _, _, ⟨_, rfl⟩, _, _, ⟨henable, rfl⟩, fromDetail, _,
    ⟨hdetail, rfl⟩, h⟩ := h
  cases fromDetail with
  | none => cases h.1
  | some fromDetail =>
    obtain ⟨info, _, _, hpure⟩ := runs_bind_ok.1 h
    cases (runs_pure.1 hpure).1
    refine ⟨rfl, rfl, item, hitem.symm, ?_, hdetail.symm⟩
    simpa using henable

/-- The decimals of what was transferred, which are those of the contract that the token service
knows, or those of the main coin. -/
def RechargeTransDetail.tokenDecimals (detail : RechargeTransDetail)
    (tokenInfo : ExternalChainName → JsString → ContractTokenInfo) : Nat :=
  CotServer.tokenDecimals tokenInfo detail.fromDetail.chainName detail.fromDetail.contractAddress

theorem symbolAndDecimals_ok {chainName : ExternalChainName} {contractAddress : Option JsString}
    {info : ContractTokenInfo}
    (h : (symbolAndDecimals env chainName contractAddress).Runs (env.answersWith tokenInfo) s
      (.ok info) s') : info.decimals = tokenDecimals tokenInfo chainName contractAddress := by
  unfold symbolAndDecimals at h
  unfold tokenDecimals
  cases hcontract : truthy contractAddress with
  | false => cases chainName <;> rw [hcontract] at h <;> cases h.1 <;> rfl
  | true =>
    rw [hcontract] at h
    rw [answersWith_tokenInfo (runs_call.1 h), if_pos rfl]

theorem getRechargeTransDetailV2_decimals {fromTrJson : FromTrJson}
    {message : RechargeV2ToTrInfoData} {detail : RechargeTransDetail}
    (hdev : env.rechargeDevTest = false)
    (h : (getRechargeTransDetailV2 env fromTrJson message).Runs (env.answersWith tokenInfo) s
      (.ok detail) s') : detail.fromDecimals = detail.tokenDecimals tokenInfo := by
  rw [getRechargeTransDetailV2, runs_bind_ok] at h
  obtain ⟨b, t, hb, h⟩ := h
  obtain ⟨rfl, rfl⟩ := runs_devTest.1 (runs_answers hb)
  rw [hdev, if_neg (by decide)] at h
  simp only [runs_bind_ok, runs_settle, runs_throwIf] at h
  obtain ⟨config, _, _, item, _, _, _, _, _, _, _, _, fromDetail, _, _, h⟩ := h
  cases fromDetail with
  | none => cases h.1
  | some fromDetail =>
    obtain ⟨info, _, hinfo, hpure⟩ := runs_bind_ok.1 h
    cases (runs_pure.1 hpure).1
    exact symbolAndDecimals_ok hinfo

theorem verifyRechargeParamV2_ok {detail : RechargeTransDetail} {u : Unit}
    (h : (verifyRechargeParamV2 env detail).Runs env.answers s (.ok u) s') :
    RechargeHelper.verifyRechargeTransDetailV2 env.sdk detail s.config = .ok () := by
  obtain ⟨config, t, hconfig, h⟩ := runs_bind_ok.1 h
  obtain ⟨rfl, rfl⟩ := runs_config.1 hconfig
  obtain ⟨_, t', hverify, _⟩ := runs_bind_ok.1 h
  exact (runs_settle.1 hverify).1.symm

/-! ## Writing -/

/-- A run of `createExternalTrans` saves the transaction, or throws; in the development test it
only draws a uuid. -/
theorem createExternalTrans_runs {orderId : JsString} {fromTrJson : FromTrJson}
    {detail : RechargeTransDetail} {r : Except Err JsString}
    (h : (createExternalTrans env orderId fromTrJson detail).Runs env.answers s r s') :
    (∃ e, r = .error e ∧ s' = s) ∨
      (env.rechargeDevTest = true ∧ s' = { s with uuids := s.uuids + 1 }) ∨
      ∃ txId json, r = .ok txId ∧ s' = { s with
        externalTransfers := s.externalTransfers ++ [⟨txId, transferReq orderId detail json⟩] } := by
  rw [createExternalTrans, runs_bind] at h
  obtain ⟨e, rfl, he⟩ | ⟨b, t, hb, h⟩ := h
  · exact .inl ⟨e, rfl, answers_error.1 (runs_call.1 he)⟩
  obtain ⟨rfl, rfl⟩ := runs_devTest.1 hb
  cases hdev : env.rechargeDevTest with
  | true =>
    rw [hdev, if_pos rfl] at h
    exact .inr (.inl ⟨rfl, (runs_getUuid.1 h).2⟩)
  | false =>
    rw [hdev, if_neg (by decide), runs_bind] at h
    obtain ⟨e, rfl, he⟩ | ⟨json, t', hjson, h⟩ := h
    · exact .inl ⟨e, rfl, (runs_settle.1 he).2⟩
    · obtain ⟨_, rfl⟩ := runs_settle.1 hjson
      have hans := runs_call.1 h
      cases r with
      | error e => exact .inl ⟨e, rfl, answers_error.1 hans⟩
      | ok txId => exact .inr (.inr ⟨txId, json, rfl, answers_saveExternalTransfer.1 hans⟩)

/-- The wallet gained one transaction, saved for the recharge order `orderId`. -/
def TransferSaved (orderId txId : JsString) (s s' : ServiceStore) : Prop :=
  ∃ saved, saved.txId = txId ∧ saved.req.param = ⟨.RECHARGE_ORDER, orderId⟩ ∧
    s'.externalTransfers = s.externalTransfers ++ [saved]

/-- The order was created with its transaction. -/
structure RechargeCreated (env : ServiceEnv) (detail : RechargeTransDetail)
    (order : RechargeOrder) (s s' : ServiceStore) : Prop where
  entityId : ∃ k, s.uuids ≤ k ∧ order.entityId = env.uuid k
  target : order.target = detail.toDetail.target
  rechargeAmount : order.rechargeAmount = detail.toAmount
  row : s'.rechargeOrders = s.rechargeOrders ++ [order]
  transfer : env.rechargeDevTest = false → TransferSaved order.entityId order.walletTxId s s'

/-- No row was stored, and the wallet gained nothing but the transaction for a row that was to be
stored next. -/
structure RechargeNotCreated (env : ServiceEnv) (s s' : ServiceStore) : Prop where
  row : s'.rechargeOrders = s.rechargeOrders
  transfer : s'.externalTransfers = s.externalTransfers ∨
    ∃ k txId, s.uuids ≤ k ∧ TransferSaved (env.uuid k) txId s s'

theorem createRechargeOrderV2_runs {fromTrJson : FromTrJson} {detail : RechargeTransDetail}
    {r : Except Err RechargeOrder}
    (h : (createRechargeOrderV2 env detail fromTrJson).Runs env.answers s r s') :
    (∃ order, r = .ok order ∧ RechargeCreated env detail order s s') ∨
      (∃ e, r = .error e) ∧ RechargeNotCreated env s s' := by
  rw [createRechargeOrderV2, runs_bind] at h
  obtain ⟨e, rfl, he⟩ | ⟨entityId, t, hrun, h⟩ := h
  · cases (runs_getUuid.1 he).1
  obtain ⟨hid, rfl⟩ := runs_getUuid.1 hrun
  cases hid
  have hk : s.uuids ≤ s.uuids := Nat.le_refl _
  rw [runs_bind] at h
  obtain ⟨e, rfl, he⟩ | ⟨walletTxId, t, hcreate, h⟩ := h
  · refine .inr ⟨⟨e, rfl⟩, ?_⟩
    rcases createExternalTrans_runs he with ⟨_, _, rfl⟩ | ⟨_, rfl⟩ | ⟨_, _, hok, _⟩
    · exact ⟨rfl, .inl rfl⟩
    · exact ⟨rfl, .inl rfl⟩
    · cases hok
  have hrows : t.rechargeOrders = s.rechargeOrders := by
    rcases createExternalTrans_runs hcreate with ⟨_, _, rfl⟩ | ⟨_, rfl⟩ | ⟨_, _, _, rfl⟩ <;> rfl
  have htransfer : t.externalTransfers = s.externalTransfers ∧ env.rechargeDevTest = true ∨
      TransferSaved (env.uuid s.uuids) walletTxId s t := by
    rcases createExternalTrans_runs hcreate with ⟨_, herr, _⟩ | ⟨hdev, rfl⟩ | ⟨_, _, hok, rfl⟩
    · cases herr
    · exact .inl ⟨rfl, hdev⟩
    · cases hok
      exact .inr ⟨_, rfl, rfl, rfl⟩
  rw [runs_bind] at h
  obtain ⟨e, rfl, he⟩ | ⟨_, t', hsave, h⟩ := h
  · cases answers_error.1 (runs_call.1 he)
    refine .inr ⟨⟨e, rfl⟩, hrows, ?_⟩
    exact htransfer.imp (·.1) fun h => ⟨_, _, hk, h⟩
  · have hsave := answers_saveRechargeOrder.1 (runs_call.1 hsave)
    obtain ⟨rfl, rfl⟩ := runs_pure.1 h
    refine .inl ⟨_, rfl, ⟨_, hk, rfl⟩, rfl, rfl, ?_, fun hdev => ?_⟩
    · rw [hsave, hrows]
    · obtain ⟨_, hdev'⟩ | ⟨saved, hsaved⟩ := htransfer
      · exact absurd (hdev.symm.trans hdev') (by decide)
      · exact ⟨saved, by rwa [hsave]⟩

/-- Rows were at most added, and the wallet is as it was. -/
structure AddsRows (s s' : ServiceStore) : Prop where
  rows : s.rechargeOrders <+: s'.rechargeOrders
  externalTransfers : s'.externalTransfers = s.externalTransfers

theorem AddsRows.trans (s t u : ServiceStore) (h : AddsRows s t) (h' : AddsRows t u) :
    AddsRows s u :=
  ⟨h.rows.trans h'.rows, h'.externalTransfers.trans h.externalTransfers⟩

theorem SameTables.addsRows (h : SameTables s s') : AddsRows s s' :=
  ⟨h.rechargeOrders ▸ List.prefix_rfl, h.externalTransfers⟩

theorem Reads.addsRows {α : Type} {p : Service α} (h : Reads env p) :
    p.Keeps env.answers AddsRows :=
  fun s r s' hrun => (h s r s' hrun).addsRows

theorem addsRows_createRechargeAirDropOrderV2 (detail : RechargeTransDetail) :
    (createRechargeAirDropOrderV2 env detail).Keeps env.answers AddsRows := by
  refine .bind AddsRows.trans (Reads.settle _).addsRows fun mainAssetType => ?_
  refine .bind AddsRows.trans (Reads.call rfl).addsRows fun balance => ?_
  split
  · exact (Reads.pure _).addsRows
  refine .bind AddsRows.trans (Reads.call rfl).addsRows fun airdrop => ?_
  split
  · refine .bind AddsRows.trans Reads.getUuid.addsRows fun entityId => .call ?_
    intro s r s' h
    cases r with
    | error e => exact answers_error.1 h ▸ (SameTables.refl s).addsRows
    | ok =>
      cases answers_saveRechargeOrder.1 h
      exact ⟨List.prefix_append _ _, rfl⟩
  · exact (Reads.pure _).addsRows

/-! ## The request -/

/-- The error of the request was thrown by the airdrop step, after the order had been created. -/
def AirDropFails (env : ServiceEnv) (dto : RechargeV2ReqDto) (e : Err) (s s' : ServiceStore) :
    Prop :=
  ∃ detail order t t', SameTables s t ∧ RechargeCreated env detail order t t' ∧
    (createRechargeAirDropOrderV2 env detail).Runs env.answers t' (.error e) s' ∧
    detail.toDetail.target = order.target ∧
    (env.rechargeDevTest = false → Decoded env s.config dto.fromTrJson dto.message detail)

/-- An accepted request has decoded, checked and created in this order; the calls are answered as
one of the services can. -/
theorem rechargeV2_ok {dto : RechargeV2ReqDto} {orderId : JsString}
    {answer : (op : ServiceOp) → ServiceStore → Except Err op.Ans → ServiceStore → Prop}
    (hanswer : ∀ op s r s', answer op s r s' → env.answers op s r s')
    (h : (rechargeV2 env dto).Runs answer s (.ok orderId) s') :
    ∃ detail order t t', SameTables s t ∧ RechargeCreated env detail order t t' ∧
      AddsRows t' s' ∧ order.entityId = orderId ∧
      RechargeHelper.verifyRechargeTransDetailV2 env.sdk detail s.config = .ok () ∧
      ∃ u, (getRechargeTransDetailV2 env dto.fromTrJson dto.message).Runs answer s (.ok detail) u := by
  simp only [rechargeV2, runs_bind_ok] at h
  obtain ⟨detail, t₁, hdetail, _, t₂, hverify, order, t₃, hcreate, _, t₄, hairdrop, hpure⟩ := h
  obtain ⟨horder, rfl⟩ := runs_pure.1 hpure
  cases horder
  have hread₁ := reads_getRechargeTransDetailV2 dto.fromTrJson dto.message _ _ _
    (hdetail.mono hanswer)
  have hread₂ := reads_verifyRechargeParamV2 detail _ _ _ (hverify.mono hanswer)
  have hchecked := verifyRechargeParamV2_ok (hverify.mono hanswer)
  rw [hread₁.config] at hchecked
  obtain ⟨order', hok, hcreated⟩ | ⟨⟨e, herror⟩, _⟩ :=
    createRechargeOrderV2_runs (hcreate.mono hanswer)
  · cases hok
    exact ⟨detail, order, t₂, t₃, hread₁.trans _ _ _ hread₂, hcreated,
      addsRows_createRechargeAirDropOrderV2 detail _ _ _ (hairdrop.mono hanswer), rfl, hchecked,
      t₁, hdetail⟩
  · cases herror

theorem RechargeNotCreated.of_same {t : ServiceStore} (h : SameTables s t)
    (h' : RechargeNotCreated env t s') : RechargeNotCreated env s s' := by
  refine ⟨h'.row.trans h.rechargeOrders, h'.transfer.imp (·.trans h.externalTransfers) ?_⟩
  rintro ⟨k, txId, hk, saved, hid, hparam, hsaved⟩
  exact ⟨k, txId, Nat.le_trans h.uuids hk, saved, hid, hparam, by rw [hsaved, h.externalTransfers]⟩

theorem SameTables.notCreated (h : SameTables s s') : RechargeNotCreated env s s' :=
  ⟨h.rechargeOrders, .inl h.externalTransfers⟩

/-- A request that ends in an error has created nothing, unless it failed in the airdrop step. -/
theorem rechargeV2_error {dto : RechargeV2ReqDto} {e : Err}
    (h : (rechargeV2 env dto).Runs env.answers s (.error e) s') :
    AirDropFails env dto e s s' ∨ RechargeNotCreated env s s' := by
  rw [rechargeV2, runs_bind_error] at h
  obtain hfail | ⟨detail, t₁, hdetail, h⟩ := h
  · exact .inr (reads_getRechargeTransDetailV2 _ _ _ _ _ hfail).notCreated
  have hread₁ := reads_getRechargeTransDetailV2 dto.fromTrJson dto.message _ _ _ hdetail
  rw [runs_bind_error] at h
  obtain hfail | ⟨_, t₂, hverify, h⟩ := h
  · exact .inr (hread₁.trans _ _ _ (reads_verifyRechargeParamV2 _ _ _ _ hfail)).notCreated
  have hread₂ := hread₁.trans _ _ _ (reads_verifyRechargeParamV2 _ _ _ _ hverify)
  rw [runs_bind_error] at h
  obtain hfail | ⟨order, t₃, hcreate, h⟩ := h
  · obtain ⟨order, hok, _⟩ | ⟨_, hnot⟩ := createRechargeOrderV2_runs hfail
    · cases hok
    · exact .inr (.of_same hread₂ hnot)
  obtain ⟨order', hok, hcreated⟩ | ⟨⟨e, herror⟩, _⟩ := createRechargeOrderV2_runs hcreate
  · cases hok
    obtain hfail | ⟨_, _, _, hpure⟩ := runs_bind_error.1 h
    · exact .inl ⟨detail, order, t₂, t₃, hread₂, hcreated, hfail, hcreated.target.symm,
        fun hdev => getRechargeTransDetailV2_ok hdev hdetail⟩
    · cases hpure.1
  · cases herror

end CotServer
