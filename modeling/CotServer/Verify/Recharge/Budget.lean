import CotServer.Verify.Order.BudgetRuns
import CotServer.Verify.Recharge.Moves

/-!
# The functions of a recharge order keep its retry budget
-/

namespace CotServer

open Async OrderObj RetryKind

def rechargeRetry : RetryKind RechargeOrder RECHARGE_ORDER_STATE_ID where
  toOrderKind := rechargeKind
  mgr := RechargeOrder.rechargeOrderMgr
  retryInterval env := env.INTERNAL_TRANS_RETRY_INVERVAL

namespace RechargeOrder

variable {env : OrderEnv} {ref : Ref} {txId : JsString} {r : Except Err Unit}
variable {answer : (op : OrderOp RechargeOrder RECHARGE_ORDER_STATE_ID) →
  OrderStore RechargeOrder → Except Err op.Ans → OrderStore RechargeOrder → Prop}
variable {s s' : OrderStore RechargeOrder} {obj : RechargeOrderObj}

section

variable (hmemory : ∀ op s r s', answer op s r s' → s.SameMemory s')

include hmemory

/-! ## Final states -/

theorem keeps_externalOnChainFail : rechargeRetry.HandlersKeep answer
    (fun _ => rechargeRetry.Evolves env) .EXTERNAL_ON_CHAIN_FAIL externalOnChainFail :=
  handlersKeep_final hmemory fun _ => keeps_pure ()

theorem keeps_internalOnChainFail : rechargeRetry.HandlersKeep answer
    (fun _ => rechargeRetry.Evolves env) .INTERNAL_ON_CHAIN_FAIL internalOnChainFail :=
  handlersKeep_final hmemory fun _ => keeps_pure ()

theorem keeps_success : rechargeRetry.HandlersKeep answer
    (fun _ => rechargeRetry.Evolves env) .SUCCESS success :=
  handlersKeep_final hmemory fun _ => keeps_call hmemory _

end

/-! ## `InternalWaitOnChain_RechargeOrderState` -/

namespace InternalWaitOnChain

theorem keeps_forceGetRWKeypair {accountType : JsString} :
    (forceGetRWKeypair accountType).Keeps answer (rechargeRetry.Evolves env) := by
  apply keeps_bind keeps_store
  intro s
  split
  · exact keeps_pure _
  · exact keeps_throw _

theorem keeps_verifyTxId :
    (verifyTxId ref txId).Keeps answer (rechargeRetry.Evolves env) :=
  keeps_bind keeps_getObj fun _ => Keeps.throwIf .refl _ _

section

variable (hmemory : ∀ op s r s', answer op s r s' → s.SameMemory s')

include hmemory

theorem keeps_onTick : (onTick ref).Keeps answer (rechargeRetry.Evolves env) := by
  apply keeps_bind keeps_getObj
  intro obj
  apply keeps_bind keeps_store
  intro s
  split
  · exact keeps_bind (keeps_modifyObj (fun _ => rfl) fun _ => rfl) fun _ => keeps_call hmemory _
  · exact keeps_pure _

theorem keeps_onQueueInited : (onQueueInited ref).Keeps answer (rechargeRetry.Evolves env) := by
  apply keeps_bind keeps_getObj
  intro obj
  split
  · exact keeps_pure _
  · exact keeps_call hmemory _

theorem keeps_onToTxStartCallback :
    (onToTxStartCallback env ref).Keeps answer (rechargeRetry.Evolves env) := by
  apply keeps_bind keeps_getObj
  intro obj
  split
  · exact keeps_call hmemory _
  · exact keeps_pure _

/-- The end of a create. -/
theorem keeps_recordTx : (do
      modifyObj ref (RechargeOrderObj.setRechargeTxId txId)
      save ref
      return txId : RechargeAsync JsString).Keeps answer (rechargeRetry.Evolves env) := by
  refine keeps_bind (keeps_modifyObj ?_ ?_) fun _ => ?_
  · exact fun _ => rfl
  · exact fun _ => rfl
  · exact keeps_bind (keeps_save hmemory) fun _ => keeps_pure _

theorem keeps_createTransfer {order : RechargeOrder} :
    (createTransfer ref order).Keeps answer (rechargeRetry.Evolves env) := by
  unfold createTransfer
  dsimp only
  split
  · apply keeps_bind (keeps_call hmemory _)
    intro recharge
    apply keeps_bind keeps_forceGetRWKeypair
    intro secret
    apply keeps_bind (Keeps.settle .refl _)
    intro rechargeItem
    exact keeps_bind (keeps_call hmemory _) fun _ => keeps_recordTx hmemory
  · apply keeps_bind keeps_forceGetRWKeypair
    intro secret
    exact keeps_bind (keeps_call hmemory _) fun _ => keeps_recordTx hmemory
  · exact keeps_throw _

theorem keeps_createInternalTransObj {chainName : JsString} :
    (createInternalTransObj chainName txId).Keeps answer (rechargeRetry.Evolves env) := by
  refine keeps_bind (Keeps.update ?_) fun _ => keeps_call hmemory _
  exact fun _ => .of_same rfl rfl

theorem keeps_startTransfer :
    (startTransfer env ref).Keeps answer (rechargeRetry.Evolves env) := by
  apply keeps_bind keeps_getObj
  intro obj
  dsimp only
  split
  · exact keeps_pure _
  split
  · exact keeps_pure _
  split
  · refine keeps_bind (Keeps.tryCatch (fun _ _ _ => .trans) ?_ fun e => ?_) fun txId => ?_
    · exact keeps_createTransfer hmemory
    · exact keeps_bind (keeps_call hmemory _) fun _ => keeps_throw _
    · exact keeps_createInternalTransObj hmemory
  · exact keeps_bind (keeps_pure _) fun _ => keeps_createInternalTransObj hmemory

theorem serves_onInternalChainSuccessCallback :
    (onInternalChainSuccessCallback ref txId).Keeps answer (rechargeRetry.Serves env ref) := by
  apply serves_bind (serves_of_keeps keeps_verifyTxId)
  intro _
  refine serves_bind (serves_of_keeps (keeps_modifyObj ?_ ?_)) fun _ => ?_
  · intro obj
    split <;> rfl
  · intro obj
    split <;> rfl
  apply serves_bind (serves_of_keeps (keeps_save hmemory))
  intro _
  apply serves_bind (serves_of_keeps keeps_getObj)
  intro obj
  split
  · apply serves_changeState
    exact serves_of_keeps ((keeps_success hmemory).enter ref)
  · exact serves_of_keeps (keeps_pure _)

end

/-- The handler of a failure. -/
theorem fails_onInternalChainFailCallback
    (hsave : ∀ e s r s', answer (.save e) s r s' → r = .ok () ∧ s' = { s with row := e })
    (hobj : s.heap[ref]? = some obj) (hwait : obj.curStateId = .INTERNAL_WAIT_ON_CHAIN)
    (hwithin : ¬ rechargeRetry.Exhausted env obj)
    (hrun : (onInternalChainFailCallback env ref txId).Runs answer s r s') :
    rechargeRetry.Steps env s s' := by
  rcases runs_bind.1 hrun with ⟨e, _, hthrows⟩ | ⟨_, t, hverified, hrest⟩
  · obtain ⟨_, rfl⟩ := runs_throwIf.1 ((runs_getObj_bind hobj).1 hthrows)
    exact .inl (.refl _)
  obtain ⟨_, rfl⟩ := runs_throwIf.1 ((runs_getObj_bind hobj).1 hverified)
  rw [runs_getObj_bind hobj] at hrest
  split at hrest
  · rw [retryToTx, runs_store_bind] at hrest
    refine .inr ⟨ref, txId, fails_of_retry hsave hobj hwithin ?_ ?_ ?_ ?_ ?_ ?_ hrest⟩
    · rfl
    · exact hwait
    · rfl
    · rfl
    · exact fun hle => if_pos hle
    · intro hlt
      -- the getter compares again
      refine (if_neg hlt).trans (if_pos ?_)
      rw [RechargeOrderObj.isRechargeTxFinish, Bool.or_eq_true]
      exact .inr (decide_eq_true (Nat.lt_of_not_le hlt))
  · obtain ⟨_, rfl⟩ := hrest
    exact .inl (.refl _)

end InternalWaitOnChain

section

variable (hmemory : ∀ op s r s', answer op s r s' → s.SameMemory s')

include hmemory

open InternalWaitOnChain in
theorem keeps_internalWaitOnChain : rechargeRetry.HandlersKeep answer (rechargeRetry.Serves env)
    .INTERNAL_WAIT_ON_CHAIN (internalWaitOnChain env) where
  enter ref := by
    apply serves_bind (serves_of_keeps (keeps_saveState hmemory))
    intro _
    refine serves_bind (Keeps.update ?_) fun _ => serves_of_keeps (keeps_pure ())
    exact fun _ _ => .of_same rfl rfl
  onTick _ := serves_of_keeps (keeps_onTick hmemory)
  onToTxStartCallback _ := serves_of_keeps (keeps_onToTxStartCallback hmemory)
  onInternalChainTryTransferCallback _ _ := serves_of_keeps (keeps_startTransfer hmemory)
  onChainCallback side success ref txId hcounted := by
    cases side <;> cases success
    · exact serves_of_keeps (keeps_pure ())
    · exact serves_of_keeps (keeps_pure ())
    · exact absurd ⟨rfl, rfl, rfl⟩ hcounted
    · exact serves_onInternalChainSuccessCallback hmemory

/-! ## `ExternalWaitOnChain_RechargeOrderState` -/

namespace ExternalWaitOnChain

theorem keeps_createExternalTransObj :
    (createExternalTransObj ref).Keeps answer (rechargeRetry.Evolves env) := by
  apply keeps_bind keeps_getObj
  intro obj
  refine keeps_bind (keeps_call hmemory _) fun _ => keeps_modifyObj ?_ ?_
  · exact fun _ => rfl
  · exact fun _ => rfl

theorem keeps_onTick : (onTick ref).Keeps answer (rechargeRetry.Evolves env) := by
  apply keeps_bind keeps_getObj
  intro obj
  split
  · exact keeps_createExternalTransObj hmemory
  · exact keeps_pure _

theorem serves_onEnterState :
    (onEnterState env ref).Keeps answer (rechargeRetry.Serves env ref) := by
  apply serves_bind (serves_of_keeps (keeps_call hmemory _))
  intro devTest
  split
  · exact serves_changeState ((keeps_internalWaitOnChain hmemory).enter ref)
  · exact serves_of_keeps (keeps_createExternalTransObj hmemory)

omit hmemory in
theorem keeps_verifyTxId : (verifyTxId ref txId).Keeps answer (rechargeRetry.Evolves env) :=
  keeps_bind keeps_getObj fun _ => Keeps.throwIf .refl _ _

theorem serves_onExternalChainSuccessCallback :
    (onExternalChainSuccessCallback env ref txId).Keeps answer (rechargeRetry.Serves env ref) := by
  apply serves_bind (serves_of_keeps keeps_verifyTxId)
  intro _
  exact serves_changeState ((keeps_internalWaitOnChain hmemory).enter ref)

theorem serves_onExternalChainFailCallback :
    (onExternalChainFailCallback ref txId).Keeps answer (rechargeRetry.Serves env ref) := by
  apply serves_bind (serves_of_keeps keeps_verifyTxId)
  intro _
  exact serves_changeState (serves_of_keeps ((keeps_externalOnChainFail hmemory).enter ref))

end ExternalWaitOnChain

open ExternalWaitOnChain in
theorem keeps_externalWaitOnChain : rechargeRetry.HandlersKeep answer (rechargeRetry.Serves env)
    .EXTERNAL_WAIT_ON_CHAIN (externalWaitOnChain env) where
  enter ref := by
    apply serves_bind (serves_of_keeps (keeps_saveState hmemory))
    intro _
    exact serves_bind (serves_onEnterState hmemory) fun _ => serves_of_keeps (keeps_pure ())
  onTick _ := serves_of_keeps (keeps_onTick hmemory)
  onToTxStartCallback _ := serves_of_keeps (keeps_pure ())
  onInternalChainTryTransferCallback _ _ := serves_of_keeps (keeps_pure ())
  onChainCallback side success ref txId _ := by
    cases side <;> cases success
    · exact serves_onExternalChainFailCallback hmemory
    · exact serves_onExternalChainSuccessCallback hmemory
    · exact serves_of_keeps (keeps_pure ())
    · exact serves_of_keeps (keeps_pure ())

/-! ## Retries and the manager -/

theorem keeps_retryExternalOnChain :
    (retryExternalOnChain env).Keeps answer (rechargeRetry.Evolves env) := by
  apply keeps_bind (keeps_call hmemory _)
  intro order
  apply keeps_bind (keeps_call hmemory _)
  intro updateTransSuccess
  apply keeps_bind (Keeps.throwIf .refl _ _)
  intro _
  apply keeps_bind (keeps_call hmemory _)
  intro affected
  apply keeps_bind (Keeps.throwIf .refl _ _)
  intro _
  exact keeps_createOrderObj hmemory

theorem keeps_retryInternalOnChain :
    (retryInternalOnChain : RechargeAsync Unit).Keeps answer (rechargeRetry.Evolves env) := by
  apply keeps_bind keeps_store
  intro s
  apply keeps_bind (keeps_call hmemory _)
  intro affected
  apply keeps_bind (Keeps.throwIf .refl _ _)
  intro _
  exact keeps_createOrderObj hmemory

theorem keeps_states (st : RECHARGE_ORDER_STATE_ID) :
    rechargeRetry.HandlersKeep answer (rechargeRetry.Serves env) st (states env st) := by
  cases st with
  | INIT => exact (handlersKeep_base _).serves
  | EXTERNAL_WAIT_ON_CHAIN => exact keeps_externalWaitOnChain hmemory
  | EXTERNAL_ON_CHAIN_FAIL => exact (keeps_externalOnChainFail hmemory).serves
  | INTERNAL_WAIT_ON_CHAIN => exact keeps_internalWaitOnChain hmemory
  | INTERNAL_ON_CHAIN_FAIL => exact (keeps_internalOnChainFail hmemory).serves
  | SUCCESS => exact (keeps_success hmemory).serves

theorem kept (hsave : ∀ e s r s', answer (.save e) s r s' → r = .ok () ∧ s' = { s with row := e }) :
    rechargeRetry.Kept env answer where
  fail_ne_wait h := by cases h
  states := keeps_states hmemory
  failed := keeps_internalOnChainFail hmemory
  fail s r s' ref txId obj hobj hwait hwithin hrun :=
    InternalWaitOnChain.fails_onInternalChainFailCallback hsave hobj hwait hwithin hrun
  onQueueInited _ := InternalWaitOnChain.keeps_onQueueInited hmemory
  retryExternalOnChain := keeps_retryExternalOnChain hmemory
  retryInternalOnChain := keeps_retryInternalOnChain hmemory

end

end RechargeOrder

end CotServer
