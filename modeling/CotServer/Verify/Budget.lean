import CotServer.Model.Sample
import CotServer.Verify.Recharge.Budget
import CotServer.Verify.Redemption.Budget

/-!
# The retry budgets of the two kinds of orders

A recharge compares its count with the limit in two places, a redemption in one. Both wait after as
many failures as the limit allows, and fail with the next one.
-/

namespace CotServer

open RetryKind

theorem rechargeRetry_kept (env : OrderEnv) : rechargeRetry.Kept env
    ((RechargeOrder.rechargeOrderMgr env).sureProgram env OrderOp.saves).answers :=
  RechargeOrder.kept (fun _ _ _ _ => sureProgram_memory) fun _ _ _ _ => sureProgram_save rfl

theorem redemptionRetry_kept (env : OrderEnv) : redemptionRetry.Kept env
    ((RedemptionOrder.redemptionOrderMgr env).sureProgram env OrderOp.saves).answers :=
  RedemptionOrder.kept (fun _ _ _ _ => sureProgram_memory) fun _ _ _ _ => sureProgram_save rfl

/-- A recharge order that waits for its outgoing transaction has not used up its limit. -/
theorem not_isRechargeTxFinish_of_inBudget {env : OrderEnv} {s : OrderStore RechargeOrder} {ref : Ref}
    {obj : RechargeOrderObj} (h : rechargeRetry.InBudget env s) (hobj : s.heap[ref]? = some obj)
    (hwait : obj.entity.state = .INTERNAL_WAIT_ON_CHAIN)
    (hfinish : obj.isRechargeTxFinish env = true) : obj.entity.rechargeTxOnChain = true := by
  rw [RechargeOrderObj.isRechargeTxFinish, Bool.or_eq_true] at hfinish
  rcases hfinish with honChain | hover
  · exact honChain
  · have hlt : env.INTERNAL_TRANS_RETRY_MAX_NUM < obj.retryTxNum := of_decide_eq_true hover
    have hexhausted : rechargeRetry.Exhausted env obj := hlt
    have hfail := (h.bounded ref obj hobj hexhausted).2
    rw [OrderObj.curStateId] at hfail
    exact absurd (hwait.symm.trans hfail) (by decide)

/-- Between the handlers of a run, each object is as its number of failures says. -/
theorem retry_budget (env : OrderEnv) :
    rechargeRetry.BudgetExact env ∧ redemptionRetry.BudgetExact env ∧
      ∀ (s s' : OrderStore RechargeOrder) ls (ref : Ref) (obj : RechargeOrderObj), s.heap = [] →
        s.accepted = [] → (rechargeRetry.worker env).run s ls = some s' →
          s'.heap[ref]? = some obj → obj.entity.state = .INTERNAL_WAIT_ON_CHAIN →
            obj.isRechargeTxFinish env = true → obj.entity.rechargeTxOnChain = true := by
  refine ⟨(rechargeRetry_kept env).budgetExact, (redemptionRetry_kept env).budgetExact, ?_⟩
  intro s s' ls ref obj hheap haccepted hrun hobj hwait hfinish
  have hbudget := (rechargeRetry_kept env).run (.start hheap haccepted) hrun
  exact not_isRechargeTxFinish_of_inBudget hbudget hobj hwait hfinish

namespace Sample

/-- A limit that the first failure uses up. -/
def onceEnv : OrderEnv := { orderEnv with INTERNAL_TRANS_RETRY_MAX_NUM := 0 }

def mintingOrder : RechargeOrder :=
  { rechargeOrder .ISSUE with state := .INTERNAL_WAIT_ON_CHAIN, rechargeTxId := js "mint" }

def mintFails : OrderEvt × List OrderChoice :=
  (.onChain ⟨.internal, false, js "mint"⟩, [.done, .done, .done])

def payingOrder : RedemptionOrder :=
  { redemptionOrder with state := .EXTERNAL_WAIT_ON_CHAIN, walletTxId := js "payout" }

def payOutFails : OrderEvt × List OrderChoice :=
  (.onChain ⟨.external, false, js "payout"⟩, [.done, .done])

end Sample

/-- The first failure of an order, with limits `0` and `3`, and an order whose transaction is on its
chain. -/
theorem retry_budget_sample :
    (∃ s t obj, (rechargeRetry.worker Sample.onceEnv).run { row := Sample.mintingOrder }
        [(.load, [.done])] = some s ∧
      (rechargeRetry.worker Sample.onceEnv).step s Sample.mintFails = some t ∧
      t.heap[0]? = some obj ∧ obj.curStateId = .INTERNAL_ON_CHAIN_FAIL) ∧
    (∃ s t obj, (redemptionRetry.worker Sample.onceEnv).run { row := Sample.payingOrder }
        [(.load, [.done, .done, .done])] = some s ∧
      (redemptionRetry.worker Sample.onceEnv).step s Sample.payOutFails = some t ∧
      t.heap[0]? = some obj ∧ obj.curStateId = .EXTERNAL_WAIT_ON_CHAIN ∧
      obj.retryTxStamp = some 1000) ∧
    ∃ s obj, (rechargeRetry.worker Sample.onceEnv).run
        { row := { Sample.mintingOrder with rechargeTxOnChain := true } } [(.load, [.done])] = some s ∧
      s.heap[0]? = some obj ∧ obj.entity.rechargeTxOnChain = true := by
  have hbudget := retry_budget Sample.onceEnv
  refine ⟨?_, ?_, ?_⟩
  · obtain ⟨s, t, hrun, hstep, hfailure, hcount⟩ : ∃ s t,
        (rechargeRetry.worker Sample.onceEnv).run { row := Sample.mintingOrder }
          [(.load, [.done])] = some s ∧
        (rechargeRetry.worker Sample.onceEnv).step s Sample.mintFails = some t ∧
        t.accepted = (0, js "mint") :: s.accepted ∧ t.failures 0 = 1 := ⟨_, _, rfl, rfl, rfl, rfl⟩
    obtain ⟨obj, hobj, hafter, _⟩ := hbudget.1 _ s t _ _ 0 _ rfl rfl hrun hstep hfailure
    rw [hcount] at hafter
    exact ⟨s, t, obj, hrun, hstep, hobj, hafter.fail (by decide)⟩
  · obtain ⟨s, t, hrun, hstep, hfailure, hcount, hnow⟩ : ∃ s t,
        (redemptionRetry.worker Sample.onceEnv).run { row := Sample.payingOrder }
          [(.load, [.done, .done, .done])] = some s ∧
        (redemptionRetry.worker Sample.onceEnv).step s Sample.payOutFails = some t ∧
        t.accepted = (0, js "payout") :: s.accepted ∧ t.failures 0 = 1 ∧ s.now = 0 :=
      ⟨_, _, rfl, rfl, rfl, rfl, rfl⟩
    obtain ⟨obj, hobj, hafter, _⟩ := hbudget.2.1 _ s t _ _ 0 _ rfl rfl hrun hstep hfailure
    rw [hcount, hnow] at hafter
    obtain ⟨hwait, _, hstamp⟩ := hafter.wait (by decide)
    exact ⟨s, t, obj, hrun, hstep, hobj, hwait, hstamp⟩
  · obtain ⟨s, obj, hrun, hobj, hwait, hfinish⟩ : ∃ s obj,
        (rechargeRetry.worker Sample.onceEnv).run
          { row := { Sample.mintingOrder with rechargeTxOnChain := true } }
          [(.load, [.done])] = some s ∧
        s.heap[0]? = some obj ∧ obj.entity.state = .INTERNAL_WAIT_ON_CHAIN ∧
        RechargeOrderObj.isRechargeTxFinish Sample.onceEnv obj = true := ⟨_, _, rfl, rfl, rfl, rfl⟩
    exact ⟨s, obj, hrun, hobj, hbudget.2.2 _ s _ 0 obj rfl rfl hrun hobj hwait hfinish⟩

end CotServer
