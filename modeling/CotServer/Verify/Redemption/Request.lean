import CotServer.Verify.Service

/-!
# The steps of `redemptionV2`

What a completed run of each step of a redemption request has read and written. The decoding and
the checks only read; `createRedemptionOrderV2` saves one transaction and then one row.
-/

namespace CotServer

open Async Service RedemptionService

variable {env : ServiceEnv} {s s' : ServiceStore}

theorem reads_decimalsOf (chainName : ExternalChainName) (contractAddress : Option JsString) :
    Reads env (decimalsOf chainName contractAddress) := by
  unfold decimalsOf
  split
  · exact .bind (.call rfl) fun info => .pure _
  · exact .settle _

theorem reads_getRedemptionTransDetailV2 (fromTrJson : RedemptionV2Tr) :
    Reads env (getRedemptionTransDetailV2 env fromTrJson) := by
  refine .bind (.call rfl) fun config => .bind (.settle _) fun detail => ?_
  cases detail with
  | none => exact .throw _
  | some detail =>
    refine .bind (.settle _) fun item => .bind (.settle _) fun toDetail => ?_
    refine .bind (.throwIf _ _) fun _ => .bind (reads_decimalsOf _ _) fun decimals => ?_
    refine .bind (.settle _) fun ratio => .bind (.settle _) fun fee => ?_
    exact .bind (.settle _) fun minusFee => .bind (.throwIf _ _) fun _ => .pure _

theorem reads_verifyBalance (detail : RedemptionTransDetail) : Reads env (verifyBalance detail) := by
  refine .bind (.call rfl) fun balance => .bind (.throwIf _ _) fun _ => .bind (.call rfl) fun b => ?_
  split
  · exact .pure _
  · exact .bind (.call rfl) fun address => .bind (.externalBalance _ _ _) fun n => .throwIf _ _

theorem reads_verifyRedemptionParamV2 (detail : RedemptionTransDetail) :
    Reads env (verifyRedemptionParamV2 env detail) := by
  refine .bind (.settle _) fun _ => .bind (.call rfl) fun config => ?_
  exact .bind (.settle _) fun item => .bind (.settle _) fun _ => reads_verifyBalance detail

/-- The wallet gained one transaction, saved for the redemption order `orderId`. -/
def TransactionSaved (orderId txId : JsString) (s s' : ServiceStore) : Prop :=
  ∃ saved, saved.txId = txId ∧ saved.req.param = ⟨.REDEMPTION_ORDER, orderId⟩ ∧
    s'.internalTransactions = s.internalTransactions ++ [saved]

/-- The order was created with its transaction. -/
structure RedemptionCreated (env : ServiceEnv) (detail : RedemptionTransDetail)
    (order : RedemptionOrder) (s s' : ServiceStore) : Prop where
  entityId : ∃ k, s.uuids ≤ k ∧ order.entityId = env.uuid k
  walletAmount : order.walletAmount = detail.toAmount
  fits : order.FitsColumns
  row : s'.redemptionOrders = s.redemptionOrders ++ [order]
  transaction : TransactionSaved order.entityId order.redemptionTxId s s'

/-- No row was stored, and the wallet gained nothing but the transaction for a row that was to be
stored next. -/
structure RedemptionNotCreated (env : ServiceEnv) (s s' : ServiceStore) : Prop where
  row : s'.redemptionOrders = s.redemptionOrders
  transaction : s'.internalTransactions = s.internalTransactions ∨
    ∃ k txId, s.uuids ≤ k ∧ TransactionSaved (env.uuid k) txId s s'

/-- A run of `createInternalDestroyAssetTrans` saves the transaction, or throws. -/
theorem createInternalDestroyAssetTrans_runs {orderId internalChain : JsString}
    {fromTrJson : RedemptionV2Tr} {r : Except Err JsString}
    (h : (createInternalDestroyAssetTrans orderId fromTrJson internalChain).Runs env.answers s r
      s') :
    (∃ e, r = .error e ∧ s' = s) ∨
      ∃ txId req, r = .ok txId ∧ req.param = ⟨.REDEMPTION_ORDER, orderId⟩ ∧ s' = { s with
        internalTransactions := s.internalTransactions ++ [⟨txId, req⟩] } := by
  rw [createInternalDestroyAssetTrans, runs_bind] at h
  obtain ⟨e, rfl, he⟩ | ⟨json, t, hjson, h⟩ := h
  · exact .inl ⟨e, rfl, (runs_settle.1 he).2⟩
  · obtain ⟨_, rfl⟩ := runs_settle.1 hjson
    have hans := runs_call.1 h
    cases r with
    | error e => exact .inl ⟨e, rfl, answers_error.1 hans⟩
    | ok txId => exact .inr ⟨txId, _, rfl, rfl, answers_saveInternalTransaction.1 hans⟩

theorem createRedemptionOrderV2_runs {fromTrJson : RedemptionV2Tr} {detail : RedemptionTransDetail}
    {r : Except Err RedemptionOrder}
    (h : (createRedemptionOrderV2 env detail fromTrJson).Runs env.answers s r s') :
    (∃ order, r = .ok order ∧ RedemptionCreated env detail order s s') ∨
      (∃ e, r = .error e) ∧ RedemptionNotCreated env s s' := by
  rw [createRedemptionOrderV2, runs_bind] at h
  obtain ⟨e, rfl, he⟩ | ⟨entityId, t, hrun, h⟩ := h
  · cases (runs_getUuid.1 he).1
  obtain ⟨hid, rfl⟩ := runs_getUuid.1 hrun
  cases hid
  have hk : s.uuids ≤ s.uuids := Nat.le_refl _
  rw [runs_bind] at h
  obtain ⟨e, rfl, he⟩ | ⟨txId, t, hcreate, h⟩ := h
  · refine .inr ⟨⟨e, rfl⟩, ?_⟩
    obtain ⟨_, _, rfl⟩ | ⟨_, _, hok, _⟩ := createInternalDestroyAssetTrans_runs he
    · exact ⟨rfl, .inl rfl⟩
    · cases hok
  obtain ⟨_, herr, _⟩ | ⟨_, req, hok, hparam, rfl⟩ := createInternalDestroyAssetTrans_runs hcreate
  · cases herr
  cases hok
  rw [runs_bind] at h
  obtain ⟨e, rfl, he⟩ | ⟨_, t', hsave, h⟩ := h
  · cases answers_error.1 (runs_call.1 he)
    exact .inr ⟨⟨e, rfl⟩, rfl, .inr ⟨_, txId, hk, ⟨txId, req⟩, rfl, hparam, rfl⟩⟩
  · obtain ⟨hfits, rfl⟩ := answers_saveRedemptionOrder.1 (runs_call.1 hsave)
    obtain ⟨rfl, rfl⟩ := runs_pure.1 h
    exact .inl ⟨_, rfl, ⟨_, hk, rfl⟩, rfl, hfits, rfl, ⟨txId, req⟩, rfl, hparam, rfl⟩

theorem SameTables.redemptionNotCreated (h : SameTables s s') : RedemptionNotCreated env s s' :=
  ⟨h.redemptionOrders, .inl h.internalTransactions⟩

theorem RedemptionNotCreated.of_same {t : ServiceStore} (h : SameTables s t)
    (h' : RedemptionNotCreated env t s') : RedemptionNotCreated env s s' := by
  refine ⟨h'.row.trans h.redemptionOrders, h'.transaction.imp (·.trans h.internalTransactions) ?_⟩
  rintro ⟨k, txId, hk, saved, hid, hparam, hsaved⟩
  exact ⟨k, txId, Nat.le_trans h.uuids hk, saved, hid, hparam,
    by rw [hsaved, h.internalTransactions]⟩

/-- An accepted request has created its order. -/
theorem redemptionV2_ok {fromTrJson : RedemptionV2Tr} {orderId : JsString}
    (h : (redemptionV2 env fromTrJson).Runs env.answers s (.ok orderId) s') :
    ∃ detail order t, SameTables s t ∧ RedemptionCreated env detail order t s' ∧
      order.entityId = orderId := by
  simp only [redemptionV2, runs_bind_ok] at h
  obtain ⟨detail, t₁, hdetail, _, t₂, hverify, order, t₃, hcreate, hpure⟩ := h
  obtain ⟨horder, rfl⟩ := runs_pure.1 hpure
  cases horder
  have hread := (reads_getRedemptionTransDetailV2 fromTrJson _ _ _ hdetail).trans _ _ _
    (reads_verifyRedemptionParamV2 detail _ _ _ hverify)
  obtain ⟨order', hok, hcreated⟩ | ⟨⟨e, herror⟩, _⟩ := createRedemptionOrderV2_runs hcreate
  · cases hok
    exact ⟨detail, order, t₂, hread, hcreated, rfl⟩
  · cases herror

/-- A request that ends in an error has created nothing. -/
theorem redemptionV2_error {fromTrJson : RedemptionV2Tr} {e : Err}
    (h : (redemptionV2 env fromTrJson).Runs env.answers s (.error e) s') :
    RedemptionNotCreated env s s' := by
  rw [redemptionV2, runs_bind_error] at h
  obtain hfail | ⟨detail, t₁, hdetail, h⟩ := h
  · exact (reads_getRedemptionTransDetailV2 _ _ _ _ hfail).redemptionNotCreated
  have hread₁ := reads_getRedemptionTransDetailV2 fromTrJson _ _ _ hdetail
  rw [runs_bind_error] at h
  obtain hfail | ⟨_, t₂, hverify, h⟩ := h
  · exact (hread₁.trans _ _ _ (reads_verifyRedemptionParamV2 _ _ _ _ hfail)).redemptionNotCreated
  have hread₂ := hread₁.trans _ _ _ (reads_verifyRedemptionParamV2 _ _ _ _ hverify)
  rw [runs_bind_error] at h
  obtain hfail | ⟨order, t₃, hcreate, hpure⟩ := h
  · obtain ⟨order, hok, _⟩ | ⟨_, hnot⟩ := createRedemptionOrderV2_runs hfail
    · cases hok
    · exact .of_same hread₂ hnot
  · cases hpure.1

end CotServer
