import CotServer.Verify.Order.BudgetRuns
import CotServer.Verify.Redemption.Moves

/-!
# The functions of a redemption order keep its retry budget
-/

namespace CotServer

open Async OrderObj RetryKind

def redemptionRetry : RetryKind RedemptionOrder REDEMPTION_ORDER_STATE_ID where
  toOrderKind := redemptionKind
  mgr := RedemptionOrder.redemptionOrderMgr
  retryInterval env := env.EXTERNAL_TRANS_RETRY_INVERVAL

namespace RedemptionOrder

variable {env : OrderEnv} {ref : Ref} {txId : JsString} {r : Except Err Unit}
variable {answer : (op : OrderOp RedemptionOrder REDEMPTION_ORDER_STATE_ID) →
  OrderStore RedemptionOrder → Except Err op.Ans → OrderStore RedemptionOrder → Prop}
variable {s s' : OrderStore RedemptionOrder} {obj : RedemptionOrderObj}

section

variable (hmemory : ∀ op s r s', answer op s r s' → s.SameMemory s')

include hmemory

/-! ## Final states -/

theorem keeps_externalOnChainFail : redemptionRetry.HandlersKeep answer
    (fun _ => redemptionRetry.Evolves env) .EXTERNAL_ON_CHAIN_FAIL externalOnChainFail :=
  handlersKeep_final hmemory fun _ => keeps_pure ()

theorem keeps_internalOnChainFail : redemptionRetry.HandlersKeep answer
    (fun _ => redemptionRetry.Evolves env) .INTERNAL_ON_CHAIN_FAIL internalOnChainFail :=
  handlersKeep_final hmemory fun _ => keeps_pure ()

theorem keeps_success : redemptionRetry.HandlersKeep answer
    (fun _ => redemptionRetry.Evolves env) .SUCCESS success :=
  handlersKeep_final hmemory fun _ => keeps_call hmemory _

end

/-! ## `ExternalWaitOnChain_RedemptionOrderState` -/

namespace ExternalWaitOnChain

theorem keeps_forceGetExternalKeypair {chainName : ExternalChainName} {assetType : JsString} :
    (forceGetExternalKeypair chainName assetType).Keeps answer (redemptionRetry.Evolves env) := by
  apply keeps_bind keeps_store
  intro s
  split
  · exact keeps_pure _
  · exact keeps_throw _

theorem keeps_verifyTxId :
    (verifyTxId ref txId).Keeps answer (redemptionRetry.Evolves env) :=
  keeps_bind keeps_getObj fun _ => Keeps.throwIf .refl _ _

section

variable (hmemory : ∀ op s r s', answer op s r s' → s.SameMemory s')

include hmemory

theorem keeps_onTick : (onTick ref).Keeps answer (redemptionRetry.Evolves env) := by
  apply keeps_bind keeps_getObj
  intro obj
  apply keeps_bind keeps_store
  intro s
  split
  · exact keeps_bind (keeps_modifyObj (fun _ => rfl) fun _ => rfl) fun _ => keeps_call hmemory _
  · exact keeps_pure _

theorem serves_onEnterState :
    (onEnterState ref).Keeps answer (redemptionRetry.Serves env ref) := by
  apply serves_bind (serves_of_keeps (keeps_call hmemory _))
  intro devTest
  split
  · exact serves_changeState (serves_of_keeps ((keeps_success hmemory).enter ref))
  · exact serves_of_keeps (keeps_call hmemory _)

theorem keeps_createTransfer {order : RedemptionOrder} :
    (createTransfer ref order).Keeps answer (redemptionRetry.Evolves env) := by
  apply keeps_bind keeps_forceGetExternalKeypair
  intro platformAccount
  apply keeps_bind (keeps_call hmemory _)
  intro txId
  refine keeps_bind (keeps_modifyObj ?_ ?_) fun _ => keeps_save hmemory
  · exact fun _ => rfl
  · exact fun _ => rfl

theorem keeps_waitForRetry {order : RedemptionOrder} {e : Err} :
    (waitForRetry env order e).Keeps answer (redemptionRetry.Evolves env) := by
  unfold waitForRetry
  split
  · apply keeps_bind (keeps_call hmemory _)
    intro forgeInterval
    exact keeps_bind (keeps_call hmemory _) fun _ => keeps_throw _
  · exact keeps_bind (keeps_call hmemory _) fun _ => keeps_throw _

theorem keeps_createExternalTransObj {chainName : ExternalChainName} :
    (createExternalTransObj chainName txId).Keeps answer (redemptionRetry.Evolves env) := by
  refine keeps_bind (Keeps.update ?_) fun _ => keeps_call hmemory _
  exact fun _ => .of_same rfl rfl

theorem keeps_startTransfer :
    (startTransfer env ref).Keeps answer (redemptionRetry.Evolves env) := by
  apply keeps_bind keeps_getObj
  intro obj
  dsimp only
  split
  · refine keeps_bind (Keeps.tryCatch (fun _ _ _ => .trans) ?_ fun e => ?_) fun _ => ?_
    · exact keeps_createTransfer hmemory
    · exact keeps_waitForRetry hmemory
    · exact keeps_bind keeps_getObj fun _ => keeps_createExternalTransObj hmemory
  · apply keeps_bind keeps_getObj
    intro obj
    exact keeps_createExternalTransObj hmemory

theorem serves_onExternalChainSuccessCallback :
    (onExternalChainSuccessCallback ref txId).Keeps answer (redemptionRetry.Serves env ref) := by
  apply serves_bind (serves_of_keeps keeps_verifyTxId)
  intro _
  exact serves_changeState (serves_of_keeps ((keeps_success hmemory).enter ref))

end

/-- The handler of a failure. -/
theorem fails_onExternalChainFailCallback
    (hsave : ∀ e s r s', answer (.save e) s r s' → r = .ok () ∧ s' = { s with row := e })
    (hobj : s.heap[ref]? = some obj) (hwait : obj.curStateId = .EXTERNAL_WAIT_ON_CHAIN)
    (hwithin : ¬ redemptionRetry.Exhausted env obj)
    (hrun : (onExternalChainFailCallback env ref txId).Runs answer s r s') :
    redemptionRetry.Steps env s s' := by
  rcases runs_bind.1 hrun with ⟨e, _, hthrows⟩ | ⟨_, t, hverified, hrest⟩
  · obtain ⟨_, rfl⟩ := runs_throwIf.1 ((runs_getObj_bind hobj).1 hthrows)
    exact .inl (.refl _)
  obtain ⟨_, rfl⟩ := runs_throwIf.1 ((runs_getObj_bind hobj).1 hverified)
  rw [retryToTx, runs_store_bind] at hrest
  refine .inr ⟨ref, txId, fails_of_retry hsave hobj hwithin ?_ ?_ ?_ ?_ ?_ ?_ hrest⟩
  · rfl
  · exact hwait
  · rfl
  · rfl
  · exact fun hle => if_pos hle
  · exact fun hlt => if_neg hlt

end ExternalWaitOnChain

section

variable (hmemory : ∀ op s r s', answer op s r s' → s.SameMemory s')

include hmemory

open ExternalWaitOnChain in
theorem keeps_externalWaitOnChain : redemptionRetry.HandlersKeep answer
    (redemptionRetry.Serves env) .EXTERNAL_WAIT_ON_CHAIN (externalWaitOnChain env) where
  enter ref := by
    apply serves_bind (serves_of_keeps (keeps_saveState hmemory))
    intro _
    exact serves_bind (serves_onEnterState hmemory) fun _ => serves_of_keeps (keeps_pure ())
  onTick _ := serves_of_keeps (keeps_onTick hmemory)
  onToTxStartCallback _ := serves_of_keeps (keeps_startTransfer hmemory)
  onInternalChainTryTransferCallback _ _ := serves_of_keeps (keeps_pure ())
  onChainCallback side success ref txId hcounted := by
    cases side <;> cases success
    · exact absurd ⟨rfl, rfl, rfl⟩ hcounted
    · exact serves_onExternalChainSuccessCallback hmemory
    · exact serves_of_keeps (keeps_pure ())
    · exact serves_of_keeps (keeps_pure ())

/-! ## `InternalWaitOnChain_RedemptionOrderState` -/

namespace InternalWaitOnChain

theorem keeps_onEnterState : (onEnterState ref).Keeps answer (redemptionRetry.Evolves env) := by
  apply keeps_bind keeps_getObj
  intro obj
  refine keeps_bind (keeps_call hmemory _) fun _ => keeps_modifyObj ?_ ?_
  · exact fun _ => rfl
  · exact fun _ => rfl

theorem keeps_onTick : (onTick ref).Keeps answer (redemptionRetry.Evolves env) := by
  apply keeps_bind keeps_getObj
  intro obj
  split
  · refine keeps_bind (keeps_call hmemory _) fun _ => keeps_modifyObj ?_ ?_
    · exact fun _ => rfl
    · exact fun _ => rfl
  · exact keeps_pure _

omit hmemory in
theorem keeps_verifyTxId : (verifyTxId ref txId).Keeps answer (redemptionRetry.Evolves env) :=
  keeps_bind keeps_getObj fun _ => Keeps.throwIf .refl _ _

theorem serves_onInternalChainSuccessCallback :
    (onInternalChainSuccessCallback env ref txId).Keeps answer (redemptionRetry.Serves env ref) := by
  apply serves_bind (serves_of_keeps keeps_verifyTxId)
  intro _
  exact serves_changeState ((keeps_externalWaitOnChain hmemory).enter ref)

theorem serves_onInternalChainFailCallback :
    (onInternalChainFailCallback ref txId).Keeps answer (redemptionRetry.Serves env ref) := by
  apply serves_bind (serves_of_keeps keeps_verifyTxId)
  intro _
  exact serves_changeState (serves_of_keeps ((keeps_internalOnChainFail hmemory).enter ref))

end InternalWaitOnChain

open InternalWaitOnChain in
theorem keeps_internalWaitOnChain : redemptionRetry.HandlersKeep answer
    (redemptionRetry.Serves env) .INTERNAL_WAIT_ON_CHAIN (internalWaitOnChain env) where
  enter ref := by
    apply serves_bind (serves_of_keeps (keeps_saveState hmemory))
    intro _
    apply serves_bind (serves_of_keeps (keeps_onEnterState hmemory))
    exact fun _ => serves_of_keeps (keeps_pure ())
  onTick _ := serves_of_keeps (keeps_onTick hmemory)
  onToTxStartCallback _ := serves_of_keeps (keeps_pure ())
  onInternalChainTryTransferCallback _ _ := serves_of_keeps (keeps_pure ())
  onChainCallback side success ref txId _ := by
    cases side <;> cases success
    · exact serves_of_keeps (keeps_pure ())
    · exact serves_of_keeps (keeps_pure ())
    · exact serves_onInternalChainFailCallback hmemory
    · exact serves_onInternalChainSuccessCallback hmemory

/-! ## Retries and the manager -/

theorem keeps_retryInternalOnChain :
    (retryInternalOnChain env).Keeps answer (redemptionRetry.Evolves env) := by
  apply keeps_bind (keeps_call hmemory _)
  intro order
  apply keeps_bind (keeps_call hmemory _)
  intro updateTransSuccess
  apply keeps_bind (Keeps.throwIf .refl _ _)
  intro _
  apply keeps_bind (keeps_call hmemory _)
  intro affected
  apply keeps_bind (Keeps.throwIf .refl _ _)
  intro _
  exact keeps_createOrderObj hmemory

theorem keeps_retryExternalOnChain :
    (retryExternalOnChain : RedemptionAsync Unit).Keeps answer (redemptionRetry.Evolves env) := by
  apply keeps_bind keeps_store
  intro s
  apply keeps_bind (keeps_call hmemory _)
  intro affected
  apply keeps_bind (Keeps.throwIf .refl _ _)
  intro _
  exact keeps_createOrderObj hmemory

theorem keeps_states (st : REDEMPTION_ORDER_STATE_ID) :
    redemptionRetry.HandlersKeep answer (redemptionRetry.Serves env) st (states env st) := by
  cases st with
  | INIT => exact (handlersKeep_base _).serves
  | INTERNAL_WAIT_ON_CHAIN => exact keeps_internalWaitOnChain hmemory
  | INTERNAL_ON_CHAIN_FAIL => exact (keeps_internalOnChainFail hmemory).serves
  | EXTERNAL_WAIT_ON_CHAIN => exact keeps_externalWaitOnChain hmemory
  | EXTERNAL_ON_CHAIN_FAIL => exact (keeps_externalOnChainFail hmemory).serves
  | SUCCESS => exact (keeps_success hmemory).serves

theorem kept (hsave : ∀ e s r s', answer (.save e) s r s' → r = .ok () ∧ s' = { s with row := e }) :
    redemptionRetry.Kept env answer where
  fail_ne_wait h := by cases h
  states := keeps_states hmemory
  failed := keeps_externalOnChainFail hmemory
  fail s r s' ref txId obj hobj hwait hwithin hrun :=
    ExternalWaitOnChain.fails_onExternalChainFailCallback hsave hobj hwait hwithin hrun
  onQueueInited _ := keeps_pure ()
  retryExternalOnChain := keeps_retryExternalOnChain hmemory
  retryInternalOnChain := keeps_retryInternalOnChain hmemory

end

end RedemptionOrder

end CotServer
