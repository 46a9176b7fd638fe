import CotServer.Model.Redemption.Order
import CotServer.Verify.Order.Runs

/-!
# The states of a redemption order keep its invariant
-/

namespace CotServer

open Async Logic OrderCase

/-- The burn on the internal chain and the payout on the external chain. -/
def redemptionTransfers : Transfers RedemptionOrder REDEMPTION_ORDER_STATE_ID where
  incoming := .internal
  outgoing := .external
  inTx order := order.redemptionTxId
  outTx order := order.walletTxId
  deposits _ := true
  confirmed st := st = .EXTERNAL_WAIT_ON_CHAIN ∨ st = .EXTERNAL_ON_CHAIN_FAIL ∨ st = .SUCCESS
  success := .SUCCESS
  setOutTx txId order := { order with walletTxId := txId }
  entityId_setOutTx _ _ := rfl
  state_setOutTx _ _ := rfl
  inTx_setOutTx _ _ := rfl
  outTx_setOutTx _ _ := rfl
  deposits_setOutTx _ _ := rfl
  inTx_setState _ _ := rfl
  outTx_setState _ _ := rfl
  deposits_setState _ _ := rfl

def redemptionCase (env : OrderEnv) (order : RedemptionOrder) (alone : Prop) :
    OrderCase RedemptionOrder REDEMPTION_ORDER_STATE_ID where
  mgr := RedemptionOrder.redemptionOrderMgr env
  env := env
  transfers := redemptionTransfers
  order := order
  alone := alone

namespace RedemptionOrder

variable {env : OrderEnv} {order : RedemptionOrder} {alone : Prop}
variable {s : OrderStore RedemptionOrder} {ref : Ref}

/-! ## Final states -/

theorem stateSafe_externalOnChainFail :
    (redemptionCase env order alone).StateSafe .EXTERNAL_ON_CHAIN_FAIL externalOnChainFail :=
  stateSafe_final fun _ _ hI => Safe.pure hI

theorem stateSafe_internalOnChainFail :
    (redemptionCase env order alone).StateSafe .INTERNAL_ON_CHAIN_FAIL internalOnChainFail :=
  stateSafe_final fun _ _ hI => Safe.pure hI

theorem stateSafe_success : (redemptionCase env order alone).StateSafe .SUCCESS success :=
  stateSafe_final fun _ _ hI => safe_publishOrderEvent hI

/-! ## `ExternalWaitOnChain_RedemptionOrderState` -/

namespace ExternalWaitOnChain

theorem safe_onTick (hI : (redemptionCase env order alone).Inv s) :
    (redemptionCase env order alone).Safe (onTick ref) s := by
  refine (triple_getObj hI).bind fun obj t _ _ h => ?_
  obtain ⟨rfl, -⟩ := h
  refine triple_store ?_
  split
  · refine Triple.bind (safe_modifyObj hI ?_) fun _ t _ hI _ => safe_publishOrderEvent hI
    exact fun _ => rfl
  · exact Safe.pure hI

/-- In development mode there is nothing to confirm and nothing to pay. -/
theorem safe_onEnterState (hI : (redemptionCase env order alone).Inv s) :
    (redemptionCase env order alone).Safe (onEnterState ref) s := by
  refine (triple_isDevTest hI).bind fun devTest t _ hI hdev => ?_
  split
  · next h =>
    have hon : env.devTest = true := hdev.symm.trans h
    refine stateSafe_success.changeState hI ⟨fun _ hoff => ?_, fun _ hoff => ?_⟩
    · exact absurd (hon.symm.trans hoff) (by decide)
    · exact absurd (hon.symm.trans hoff) (by decide)
  · exact safe_publishOrderEvent hI

theorem safe_forceGetExternalKeypair {chainName : ExternalChainName} {assetType : JsString}
    (hI : (redemptionCase env order alone).Inv s) :
    (redemptionCase env order alone).Safe (forceGetExternalKeypair chainName assetType) s := by
  refine triple_store ?_
  split
  · exact Safe.pure hI
  · exact triple_throw hI

theorem safe_createTransfer {value : RedemptionOrder} (hI : (redemptionCase env order alone).Inv s)
    (hc : (redemptionCase env order alone).Confirmed s) (href : ref < s.heap.length) :
    (redemptionCase env order alone).Safe (createTransfer ref value) s := by
  refine (safe_forceGetExternalKeypair hI).bind fun platformAccount t hR hI _ => ?_
  refine (triple_createExternalTransfer hI (hc.later hR)).bind fun txId u hR' hI hcreated => ?_
  have href : ref < u.heap.length := Nat.lt_of_lt_of_le href (Nat.le_trans hR.heap hR'.heap)
  refine Triple.bind (triple_recordTx ?_ hI href hcreated) fun _ v _ hI _ => safe_saveObj hI
  exact fun _ => rfl

theorem safe_waitForRetry {value : RedemptionOrder} {e : Err}
    (hI : (redemptionCase env order alone).Inv s) :
    (redemptionCase env order alone).Safe (waitForRetry env value e) s := by
  unfold waitForRetry
  split
  · refine (safe_neutral hI rfl).bind fun forgeInterval t _ hI _ => ?_
    exact (safe_neutral hI rfl).bind fun _ u _ hI _ => triple_throw hI
  · exact (safe_neutral hI rfl).bind fun _ u _ hI _ => triple_throw hI

/-- The transaction id is read again for the start, so it is the current one. -/
theorem safe_startCurrent {chainName : ExternalChainName}
    (hI : (redemptionCase env order alone).Inv s) :
    (redemptionCase env order alone).Safe (do
      let obj ← OrderObj.getObj ref
      createExternalTransObj chainName obj.entity.walletTxId) s := by
  refine (triple_getObj hI).bind fun obj t _ _ h => ?_
  obtain ⟨rfl, hobj⟩ := h
  exact (safe_start hI (startable_of_object hobj)).bind fun _ t _ hI _ => safe_neutral hI rfl

theorem safe_startTransfer (hI : (redemptionCase env order alone).Inv s)
    (hc : (redemptionCase env order alone).Confirmed s) :
    (redemptionCase env order alone).Safe (startTransfer env ref) s := by
  refine (triple_getObj hI).bind fun obj t _ _ h => ?_
  obtain ⟨rfl, hobj⟩ := h
  dsimp only
  split
  · have href : ref < s.heap.length := (List.getElem?_eq_some_iff.1 hobj).1
    refine (Triple.tryCatch (safe_createTransfer hI hc href) fun e t _ hI => ?_).bind
      fun _ t _ hI _ => safe_startCurrent hI
    exact safe_waitForRetry hI
  · exact safe_startCurrent hI

theorem triple_verifyTxId {txId : JsString} (hI : (redemptionCase env order alone).Inv s) :
    (redemptionCase env order alone).logic.Triple (verifyTxId ref txId) s fun _ t => s = t ∧
      ∃ obj, s.heap[ref]? = some obj ∧ obj.entity.walletTxId = txId := by
  refine (triple_getObj hI).bind fun obj t _ _ h => ?_
  obtain ⟨rfl, hobj⟩ := h
  exact triple_throwIf hI fun h => ⟨rfl, obj, hobj, (not_not.1 h).symm⟩

theorem safe_onExternalChainSuccessCallback {txId : JsString}
    (hI : (redemptionCase env order alone).Inv s)
    (hc : (redemptionCase env order alone).Confirmed s)
    (hreport : ⟨.external, true, txId⟩ ∈ s.reports) :
    (redemptionCase env order alone).Safe (onExternalChainSuccessCallback ref txId) s := by
  refine (triple_verifyTxId hI).bind fun _ t _ _ h => ?_
  obtain ⟨rfl, obj, hobj, rfl⟩ := h
  have hpaid : (redemptionCase env order alone).Paid s :=
    fun _ => ⟨_, hreport, (hI.object hobj).outTx⟩
  exact stateSafe_success.changeState hI ⟨fun _ => hc, fun _ => hpaid⟩

theorem safe_retryToTx {txId : JsString} (hI : (redemptionCase env order alone).Inv s)
    (hc : (redemptionCase env order alone).Confirmed s)
    (hfailed : ∀ obj, s.heap[ref]? = some obj →
      (redemptionCase env order alone).Failed s obj.entity.walletTxId) :
    (redemptionCase env order alone).Safe (retryToTx env ref txId) s := by
  have hst : (redemptionCase env order alone).StateOk s .EXTERNAL_ON_CHAIN_FAIL :=
    ⟨fun _ => hc, fun h => (nomatch h)⟩
  refine triple_store (Triple.bind (safe_acceptFailure ?_ hI hfailed) fun _ t hR hI _ => ?_)
  · exact fun _ => rfl
  refine (safe_saveObj hI).bind fun _ u hR' hI _ => ?_
  refine (triple_getObj hI).bind fun obj v _ _ h => ?_
  obtain ⟨rfl, -⟩ := h
  split
  · exact Safe.pure hI
  · exact stateSafe_externalOnChainFail.changeState hI ((hst.later hR).later hR')

theorem safe_onExternalChainFailCallback {txId : JsString}
    (hI : (redemptionCase env order alone).Inv s)
    (hc : (redemptionCase env order alone).Confirmed s)
    (hreport : ⟨.external, false, txId⟩ ∈ s.reports) :
    (redemptionCase env order alone).Safe (onExternalChainFailCallback env ref txId) s := by
  refine (triple_verifyTxId hI).bind fun _ t _ _ h => ?_
  obtain ⟨rfl, obj, hobj, rfl⟩ := h
  refine safe_retryToTx hI hc fun obj' hobj' => ?_
  cases hobj.symm.trans hobj'
  exact hreport

end ExternalWaitOnChain

open ExternalWaitOnChain in
theorem stateSafe_externalWaitOnChain :
    (redemptionCase env order alone).StateSafe .EXTERNAL_WAIT_ON_CHAIN
      (externalWaitOnChain env) where
  enter ref _ hI _ := (safe_saveObjState hI).bind fun _ _ _ hI _ =>
    (safe_onEnterState hI).bind fun _ _ _ hI _ => Safe.pure hI
  onTick _ _ hI _ := safe_onTick hI
  onToTxStartCallback _ _ hI hst := safe_startTransfer hI (hst.confirmed rfl)
  onInternalChainTryTransferCallback _ _ _ hI _ := Safe.pure hI
  onChainCallback side success _ _ _ hI hst hreport := by
    cases side <;> cases success
    case external.false => exact safe_onExternalChainFailCallback hI (hst.confirmed rfl) hreport
    case external.true => exact safe_onExternalChainSuccessCallback hI (hst.confirmed rfl) hreport
    case internal.false => exact Safe.pure hI
    case internal.true => exact Safe.pure hI

/-! ## `InternalWaitOnChain_RedemptionOrderState` -/

namespace InternalWaitOnChain

theorem safe_onEnterState (hI : (redemptionCase env order alone).Inv s) :
    (redemptionCase env order alone).Safe (onEnterState ref) s := by
  refine (triple_getObj hI).bind fun obj t _ _ h => ?_
  obtain ⟨rfl, -⟩ := h
  refine (safe_neutral hI rfl).bind fun _ t _ hI _ => safe_modifyObj hI ?_
  exact fun _ => rfl

theorem safe_onTick (hI : (redemptionCase env order alone).Inv s) :
    (redemptionCase env order alone).Safe (onTick ref) s := by
  refine (triple_getObj hI).bind fun obj t _ _ h => ?_
  obtain ⟨rfl, -⟩ := h
  split
  · refine (safe_neutral hI rfl).bind fun _ t _ hI _ => safe_modifyObj hI ?_
    exact fun _ => rfl
  · exact Safe.pure hI

theorem triple_verifyTxId {txId : JsString} (hI : (redemptionCase env order alone).Inv s) :
    (redemptionCase env order alone).logic.Triple (verifyTxId ref txId) s fun _ t => s = t ∧
      txId = order.redemptionTxId := by
  refine (triple_getObj hI).bind fun obj t _ _ h => ?_
  obtain ⟨rfl, hobj⟩ := h
  exact triple_throwIf hI fun h => ⟨rfl, (not_not.1 h).trans (hI.object hobj).inTx⟩

theorem safe_onInternalChainSuccessCallback {txId : JsString}
    (hI : (redemptionCase env order alone).Inv s)
    (hreport : ⟨.internal, true, txId⟩ ∈ s.reports) :
    (redemptionCase env order alone).Safe (onInternalChainSuccessCallback env ref txId) s := by
  refine (triple_verifyTxId hI).bind fun _ t _ _ h => ?_
  obtain ⟨rfl, rfl⟩ := h
  exact stateSafe_externalWaitOnChain.changeState hI
    ⟨fun _ _ _ => hreport, fun h => (nomatch h)⟩

theorem safe_onInternalChainFailCallback {txId : JsString}
    (hI : (redemptionCase env order alone).Inv s) :
    (redemptionCase env order alone).Safe (onInternalChainFailCallback ref txId) s := by
  refine (triple_verifyTxId hI).bind fun _ t _ _ h => ?_
  obtain ⟨rfl, -⟩ := h
  exact stateSafe_internalOnChainFail.changeState hI
    ⟨fun h => (nomatch h), fun h => (nomatch h)⟩

end InternalWaitOnChain

open InternalWaitOnChain in
theorem stateSafe_internalWaitOnChain :
    (redemptionCase env order alone).StateSafe .INTERNAL_WAIT_ON_CHAIN
      (internalWaitOnChain env) where
  enter ref _ hI _ := (safe_saveObjState hI).bind fun _ _ _ hI _ =>
    (safe_onEnterState hI).bind fun _ _ _ hI _ => Safe.pure hI
  onTick _ _ hI _ := safe_onTick hI
  onToTxStartCallback _ _ hI _ := Safe.pure hI
  onInternalChainTryTransferCallback _ _ _ hI _ := Safe.pure hI
  onChainCallback side success _ _ _ hI _ hreport := by
    cases side <;> cases success
    case external.false => exact Safe.pure hI
    case external.true => exact Safe.pure hI
    case internal.false => exact safe_onInternalChainFailCallback hI
    case internal.true => exact safe_onInternalChainSuccessCallback hI hreport

/-! ## The manager -/

theorem safe_retryInternalOnChain (hI : (redemptionCase env order alone).Inv s) :
    (redemptionCase env order alone).Safe (retryInternalOnChain env) s := by
  refine (triple_findOneByForce hI).bind fun row t _ hI _ => ?_
  refine (safe_neutral hI rfl).bind fun updateTransSuccess t _ hI _ => ?_
  refine (triple_throwIf hI fun _ => trivial).bind (Q := fun _ _ => True) fun _ t _ hI _ => ?_
  refine (safe_update hI fun t _ => ?_).bind fun affected t _ hI _ => ?_
  · exact ⟨fun h => (nomatch h), fun h => (nomatch h)⟩
  refine (triple_throwIf hI fun _ => trivial).bind (Q := fun _ _ => True) fun _ t _ hI _ => ?_
  exact safe_createOrderObj hI

theorem safe_retryExternalOnChain (hI : (redemptionCase env order alone).Inv s) :
    (redemptionCase env order alone).Safe retryExternalOnChain s := by
  refine triple_store ?_
  refine Triple.bind (safe_update hI fun t hst => ?_) fun affected t _ hI _ => ?_
  · exact ⟨fun _ => hst.confirmed rfl, fun h => (nomatch h)⟩
  refine (triple_throwIf hI fun _ => trivial).bind (Q := fun _ _ => True) fun _ t _ hI _ => ?_
  exact safe_createOrderObj hI

theorem mgrSafe : (redemptionCase env order alone).MgrSafe where
  states st := by
    cases st
    case INIT => exact stateSafe_base _
    case INTERNAL_WAIT_ON_CHAIN => exact stateSafe_internalWaitOnChain
    case INTERNAL_ON_CHAIN_FAIL => exact stateSafe_internalOnChainFail
    case EXTERNAL_WAIT_ON_CHAIN => exact stateSafe_externalWaitOnChain
    case EXTERNAL_ON_CHAIN_FAIL => exact stateSafe_externalOnChainFail
    case SUCCESS => exact stateSafe_success
  setOrderPending _ _ _ h := h.setState ⟨fun h => (nomatch h), fun h => (nomatch h)⟩
  onQueueInited _ _ hI := Safe.pure hI
  retryExternalOnChain _ hI := safe_retryExternalOnChain hI
  retryInternalOnChain _ hI := safe_retryInternalOnChain hI

end RedemptionOrder

end CotServer
