import CotServer.Verify.Recharge.Request
import CotServer.Verify.Redemption.Request

/-!
# Creating an order is all or nothing, up to the wallet

A request writes to the wallet first and to the database second, and nothing takes the first write
back when the second fails. So an order is created completely, or without a row; in the second case
the wallet may keep the transaction of the row that could not be stored.
-/

namespace CotServer

open Async RechargeService RedemptionService

variable {env : ServiceEnv} {s s' : ServiceStore}

/-- The row of the recharge order exists, and its transaction is saved for it. -/
def RechargeStored (env : ServiceEnv) (orderId : JsString) (s' : ServiceStore) : Prop :=
  ∃ order ∈ s'.rechargeOrders, order.entityId = orderId ∧
    (env.rechargeDevTest = false → ∃ saved ∈ s'.externalTransfers,
      saved.txId = order.walletTxId ∧ saved.req.param = ⟨.RECHARGE_ORDER, orderId⟩)

/-- The row of the redemption order exists, and its transaction is saved for it. -/
def RedemptionStored (orderId : JsString) (s' : ServiceStore) : Prop :=
  ∃ order ∈ s'.redemptionOrders, order.entityId = orderId ∧
    ∃ saved ∈ s'.internalTransactions,
      saved.txId = order.redemptionTxId ∧ saved.req.param = ⟨.REDEMPTION_ORDER, orderId⟩

theorem rechargeV2_stored {dto : RechargeV2ReqDto} {orderId : JsString}
    (h : (rechargeV2 env dto).Runs env.answers s (.ok orderId) s') :
    RechargeStored env orderId s' := by
  obtain ⟨detail, order, t, t', _, hcreated, hadds, rfl, _, _⟩ := rechargeV2_ok (fun _ _ _ _ h => h) h
  refine ⟨order, hadds.rows.mem ?_, rfl, fun hdev => ?_⟩
  · rw [hcreated.row]
    exact List.mem_append_right _ (List.mem_singleton_self _)
  · obtain ⟨saved, hid, hparam, hsaved⟩ := hcreated.transfer hdev
    refine ⟨saved, ?_, hid, hparam⟩
    rw [hadds.externalTransfers, hsaved]
    exact List.mem_append_right _ (List.mem_singleton_self _)

theorem redemptionV2_stored {fromTrJson : RedemptionV2Tr} {orderId : JsString}
    (h : (redemptionV2 env fromTrJson).Runs env.answers s (.ok orderId) s') :
    RedemptionStored orderId s' := by
  obtain ⟨detail, order, t, _, hcreated, rfl⟩ := redemptionV2_ok h
  obtain ⟨saved, hid, hparam, hsaved⟩ := hcreated.transaction
  refine ⟨order, ?_, rfl, saved, ?_, hid, hparam⟩
  · rw [hcreated.row]
    exact List.mem_append_right _ (List.mem_singleton_self _)
  · rw [hsaved]
    exact List.mem_append_right _ (List.mem_singleton_self _)

/-- Whatever call of a request throws: when it returns an id the order and its transaction are
stored; when it ends in an error before the airdrop step, no row is stored and the wallet gained at
most the transaction for the row that was to be stored next. -/
theorem creation_all_or_nothing (env : ServiceEnv) (s s' : ServiceStore) :
    (∀ dto orderId, (rechargeV2 env dto).Runs env.answers s (.ok orderId) s' →
        RechargeStored env orderId s') ∧
      (∀ dto e, (rechargeV2 env dto).Runs env.answers s (.error e) s' →
        AirDropFails env dto e s s' ∨ RechargeNotCreated env s s') ∧
      (∀ fromTrJson orderId,
        (redemptionV2 env fromTrJson).Runs env.answers s (.ok orderId) s' →
          RedemptionStored orderId s') ∧
      ∀ fromTrJson e, (redemptionV2 env fromTrJson).Runs env.answers s (.error e) s' →
        RedemptionNotCreated env s s' :=
  ⟨fun _ _ h => rechargeV2_stored h, fun _ _ h => rechargeV2_error h,
    fun _ _ h => redemptionV2_stored h, fun _ _ h => redemptionV2_error h⟩

/-- When the row cannot be stored, the wallet keeps the transaction that was saved for it. -/
theorem not_all_or_nothing :
    ¬ ∀ (env : ServiceEnv) (s s' : ServiceStore) (dto : RechargeV2ReqDto) (e : Err),
      (rechargeV2 env dto).Runs env.answers s (.error e) s' →
        s'.rechargeOrders = s.rechargeOrders ∧ s'.externalTransfers = s.externalTransfers := by
  intro h
  let dto : RechargeV2ReqDto := ⟨⟨none, none, some ⟨js "TDeposit"⟩, none⟩, Sample.message⟩
  let e : Err := .error (js "ER_LOCK_WAIT_TIMEOUT")
  let choices : List ServiceChoice :=
    [.done, .done, .done, .done, .amount 5000000, .done, .text (js "tx"), .fails e]
  obtain ⟨s', hrun, hsaved⟩ : ∃ s', (rechargeV2 Sample.env dto).exec (ServiceOp.answer Sample.env)
      choices { config := Sample.config } = some (.error e, s') ∧
        s'.externalTransfers.length = 1 := ⟨_, rfl, rfl⟩
  obtain ⟨_, hsame⟩ := h Sample.env _ s' dto e (runs_of_exec hrun)
  rw [hsame] at hsaved
  cases hsaved

end CotServer
