import CotServer.Model.Recharge.Order
import CotServer.Verify.Order.Runs

/-!
# The states of a recharge order keep its invariant
-/

namespace CotServer

open Async Logic OrderCase

/-- The deposit on the external chain and the mint on the internal chain. -/
def rechargeTransfers : Transfers RechargeOrder RECHARGE_ORDER_STATE_ID where
  incoming := .external
  outgoing := .internal
  inTx order := order.walletTxId
  outTx order := order.rechargeTxId
  deposits order := order.rechargeType = .ISSUE
  confirmed st := st = .INTERNAL_WAIT_ON_CHAIN ∨ st = .INTERNAL_ON_CHAIN_FAIL ∨ st = .SUCCESS
  success := .SUCCESS
  setOutTx txId order := { order with rechargeTxId := txId }
  entityId_setOutTx _ _ := rfl
  state_setOutTx _ _ := rfl
  inTx_setOutTx _ _ := rfl
  outTx_setOutTx _ _ := rfl
  deposits_setOutTx _ _ := rfl
  inTx_setState _ _ := rfl
  outTx_setState _ _ := rfl
  deposits_setState _ _ := rfl

def rechargeCase (env : OrderEnv) (order : RechargeOrder) (alone : Prop) :
    OrderCase RechargeOrder RECHARGE_ORDER_STATE_ID where
  mgr := RechargeOrder.rechargeOrderMgr env
  env := env
  transfers := rechargeTransfers
  order := order
  alone := alone

namespace RechargeOrder

variable {env : OrderEnv} {order : RechargeOrder} {alone : Prop}
variable {s : OrderStore RechargeOrder} {ref : Ref}

/-! ## Final states -/

theorem stateSafe_externalOnChainFail :
    (rechargeCase env order alone).StateSafe .EXTERNAL_ON_CHAIN_FAIL externalOnChainFail :=
  stateSafe_final fun _ _ hI => Safe.pure hI

theorem stateSafe_internalOnChainFail :
    (rechargeCase env order alone).StateSafe .INTERNAL_ON_CHAIN_FAIL internalOnChainFail :=
  stateSafe_final fun _ _ hI => Safe.pure hI

theorem stateSafe_success : (rechargeCase env order alone).StateSafe .SUCCESS success :=
  stateSafe_final fun _ _ hI => safe_publishOrderEvent hI

/-! ## `InternalWaitOnChain_RechargeOrderState` -/

namespace InternalWaitOnChain

theorem safe_onTick (hI : (rechargeCase env order alone).Inv s) :
    (rechargeCase env order alone).Safe (onTick ref) s := by
  refine (triple_getObj hI).bind fun obj t _ _ h => ?_
  obtain ⟨rfl, -⟩ := h
  refine triple_store ?_
  split
  · refine Triple.bind (safe_modifyObj hI ?_) fun _ t _ hI _ => safe_publishOrderEvent hI
    exact fun _ => rfl
  · exact Safe.pure hI

theorem safe_onToTxStartCallback (hI : (rechargeCase env order alone).Inv s) :
    (rechargeCase env order alone).Safe (onToTxStartCallback env ref) s := by
  refine (triple_getObj hI).bind fun obj t _ _ h => ?_
  obtain ⟨rfl, -⟩ := h
  split
  · exact safe_publishOrderEvent hI
  · exact Safe.pure hI

theorem safe_onQueueInited (hI : (rechargeCase env order alone).Inv s) :
    (rechargeCase env order alone).Safe (onQueueInited ref) s := by
  refine (triple_getObj hI).bind fun obj t _ _ h => ?_
  obtain ⟨rfl, -⟩ := h
  split
  · exact Safe.pure hI
  · exact safe_publishOrderEvent hI

theorem safe_forceGetRWKeypair {accountType : JsString}
    (hI : (rechargeCase env order alone).Inv s) :
    (rechargeCase env order alone).Safe (forceGetRWKeypair accountType) s := by
  refine triple_store ?_
  split
  · exact Safe.pure hI
  · exact triple_throw hI

/-- The transaction that a create call has given back is recorded and saved. -/
theorem triple_record {txId : JsString} (hI : (rechargeCase env order alone).Inv s)
    (href : ref < s.heap.length) (hcreated : (rechargeCase env order alone).Created txId s) :
    (rechargeCase env order alone).logic.Triple (do
      OrderObj.modifyObj ref (RechargeOrderObj.setRechargeTxId txId)
      OrderObj.save ref
      return txId : RechargeAsync JsString) s
      fun txId t => (rechargeCase env order alone).Startable t txId := by
  refine (triple_recordTx (fun _ => rfl) hI href hcreated).bind fun _ t _ hI hstart => ?_
  refine (safe_saveObj hI).bind fun _ u hR hI _ => triple_pure hI ?_
  exact hstart.later hR

theorem triple_createTransfer {value : RechargeOrder} (hI : (rechargeCase env order alone).Inv s)
    (hc : (rechargeCase env order alone).Confirmed s) (href : ref < s.heap.length) :
    (rechargeCase env order alone).logic.Triple (createTransfer ref value) s
      fun txId t => (rechargeCase env order alone).Startable t txId := by
  unfold createTransfer
  split
  · refine (safe_neutral hI rfl).bind fun recharge t hR hI _ => ?_
    refine (safe_forceGetRWKeypair hI).bind fun platformSecret t₁ hR₁ hI _ => ?_
    refine (triple_settle hI fun _ _ => trivial).bind (Q := fun _ _ => True)
      fun rechargeItem t₂ hR₂ hI _ => ?_
    have hR := (rechargeCase env order alone).logic.trans hR
      ((rechargeCase env order alone).logic.trans hR₁ hR₂)
    refine (triple_createInternalIncreaseAsset hI (hc.later hR)).bind
      fun txId u hR' hI hcreated => ?_
    exact triple_record hI (Nat.lt_of_lt_of_le href (Nat.le_trans hR.heap hR'.heap)) hcreated
  · refine (safe_forceGetRWKeypair hI).bind fun platformSecret t hR hI _ => ?_
    refine (triple_createInternalTransfer hI (hc.later hR)).bind fun txId u hR' hI hcreated => ?_
    exact triple_record hI (Nat.lt_of_lt_of_le href (Nat.le_trans hR.heap hR'.heap)) hcreated
  · exact triple_throw hI

theorem safe_createInternalTransObj {chainName txId : JsString}
    (hI : (rechargeCase env order alone).Inv s)
    (hstart : (rechargeCase env order alone).Startable s txId) :
    (rechargeCase env order alone).Safe (createInternalTransObj chainName txId) s :=
  (safe_start hI hstart).bind fun _ _ _ hI _ => safe_neutral hI rfl

theorem safe_startTransfer (hI : (rechargeCase env order alone).Inv s)
    (hc : (rechargeCase env order alone).Confirmed s) :
    (rechargeCase env order alone).Safe (startTransfer env ref) s := by
  refine (triple_getObj hI).bind fun obj t _ _ h => ?_
  obtain ⟨rfl, hobj⟩ := h
  dsimp only
  split
  · exact Safe.pure hI
  split
  · exact Safe.pure hI
  split
  · have href : ref < s.heap.length := (List.getElem?_eq_some_iff.1 hobj).1
    refine (Triple.tryCatch (triple_createTransfer hI hc href) fun e t _ hI => ?_).bind
      fun txId t _ hI hstart => safe_createInternalTransObj hI hstart
    exact (safe_neutral hI rfl).bind fun _ u _ hI _ => triple_throw hI
  · exact safe_createInternalTransObj hI (startable_of_object hobj)

theorem triple_verifyTxId {txId : JsString} (hI : (rechargeCase env order alone).Inv s) :
    (rechargeCase env order alone).logic.Triple (verifyTxId ref txId) s fun _ t => s = t ∧
      ∃ obj, s.heap[ref]? = some obj ∧ obj.entity.rechargeTxId = txId := by
  refine (triple_getObj hI).bind fun obj t _ _ h => ?_
  obtain ⟨rfl, hobj⟩ := h
  exact triple_throwIf hI fun h => ⟨rfl, obj, hobj, (not_not.1 h).symm⟩

/-- Marking the transaction leaves what the invariant speaks about. -/
theorem safe_setRechargeTxOnChain {txId : JsString} (hI : (rechargeCase env order alone).Inv s) :
    (rechargeCase env order alone).Safe (OrderObj.modifyObj ref fun obj =>
      if obj.entity.rechargeTxId = txId then RechargeOrderObj.setRechargeTxOnChain true obj
      else obj) s := by
  refine (triple_modifyObj hI (fun obj hobj => ?_) fun _ obj _ => ?_).mono fun _ _ _ _ _ => trivial
  · have hok := hI.object hobj
    split
    · exact ⟨hok.entityId, hok.inTx, hok.deposits, hok.outTx, hok.state⟩
    · exact hok
  · split <;> exact .inl rfl

theorem safe_onInternalChainSuccessCallback {txId : JsString}
    (hI : (rechargeCase env order alone).Inv s) (hc : (rechargeCase env order alone).Confirmed s)
    (hreport : ⟨.internal, true, txId⟩ ∈ s.reports) :
    (rechargeCase env order alone).Safe (onInternalChainSuccessCallback ref txId) s := by
  refine (triple_verifyTxId hI).bind fun _ t _ _ h => ?_
  obtain ⟨rfl, obj, hobj, rfl⟩ := h
  have hpaid : (rechargeCase env order alone).Paid s :=
    fun _ => ⟨_, hreport, (hI.object hobj).outTx⟩
  have hst : (rechargeCase env order alone).StateOk s .SUCCESS := ⟨fun _ => hc, fun _ => hpaid⟩
  refine (safe_setRechargeTxOnChain hI).bind fun _ t hR hI _ => ?_
  refine (safe_saveObj hI).bind fun _ u hR' hI _ => ?_
  refine (triple_getObj hI).bind fun obj v _ _ h => ?_
  obtain ⟨rfl, -⟩ := h
  split
  · exact stateSafe_success.changeState hI ((hst.later hR).later hR')
  · exact Safe.pure hI

theorem safe_retryToTx {txId : JsString} (hI : (rechargeCase env order alone).Inv s)
    (hc : (rechargeCase env order alone).Confirmed s)
    (hfailed : ∀ obj, s.heap[ref]? = some obj →
      (rechargeCase env order alone).Failed s obj.entity.rechargeTxId) :
    (rechargeCase env order alone).Safe (retryToTx env ref txId) s := by
  have hst : (rechargeCase env order alone).StateOk s .INTERNAL_ON_CHAIN_FAIL :=
    ⟨fun _ => hc, fun h => (nomatch h)⟩
  refine triple_store (Triple.bind (safe_acceptFailure ?_ hI hfailed) fun _ t hR hI _ => ?_)
  · exact fun _ => rfl
  refine (safe_saveObj hI).bind fun _ u hR' hI _ => ?_
  refine (triple_getObj hI).bind fun obj v _ _ h => ?_
  obtain ⟨rfl, -⟩ := h
  split
  · exact Safe.pure hI
  split
  · exact stateSafe_internalOnChainFail.changeState hI ((hst.later hR).later hR')
  · exact Safe.pure hI

theorem safe_onInternalChainFailCallback {txId : JsString}
    (hI : (rechargeCase env order alone).Inv s) (hc : (rechargeCase env order alone).Confirmed s)
    (hreport : ⟨.internal, false, txId⟩ ∈ s.reports) :
    (rechargeCase env order alone).Safe (onInternalChainFailCallback env ref txId) s := by
  refine (triple_verifyTxId hI).bind fun _ t _ _ h => ?_
  obtain ⟨rfl, obj, hobj, rfl⟩ := h
  refine (triple_getObj hI).bind fun obj' t _ _ h => ?_
  obtain ⟨rfl, -⟩ := h
  split
  · refine safe_retryToTx hI hc fun obj'' hobj'' => ?_
    cases hobj.symm.trans hobj''
    exact hreport
  · exact Safe.pure hI

end InternalWaitOnChain

open InternalWaitOnChain in
theorem stateSafe_internalWaitOnChain :
    (rechargeCase env order alone).StateSafe .INTERNAL_WAIT_ON_CHAIN (internalWaitOnChain env) where
  enter ref _ hI _ := by
    refine (safe_saveObjState hI).bind fun _ t _ hI _ => ?_
    refine Triple.bind (Q := fun _ _ => True) (safe_update_sameOrder hI fun u => ?_)
      fun _ u _ hI _ => Safe.pure hI
    exact ⟨rfl, rfl, rfl, rfl, rfl⟩
  onTick _ _ hI _ := safe_onTick hI
  onToTxStartCallback _ _ hI _ := safe_onToTxStartCallback hI
  onInternalChainTryTransferCallback _ _ _ hI hst := safe_startTransfer hI (hst.confirmed rfl)
  onChainCallback side success _ _ _ hI hst hreport := by
    cases side <;> cases success
    case external.false => exact Safe.pure hI
    case external.true => exact Safe.pure hI
    case internal.false => exact safe_onInternalChainFailCallback hI (hst.confirmed rfl) hreport
    case internal.true => exact safe_onInternalChainSuccessCallback hI (hst.confirmed rfl) hreport

/-! ## `ExternalWaitOnChain_RechargeOrderState` -/

namespace ExternalWaitOnChain

theorem safe_createExternalTransObj (hI : (rechargeCase env order alone).Inv s) :
    (rechargeCase env order alone).Safe (createExternalTransObj ref) s := by
  refine (triple_getObj hI).bind fun obj t _ _ h => ?_
  obtain ⟨rfl, -⟩ := h
  refine (safe_neutral hI rfl).bind fun _ t _ hI _ => safe_modifyObj hI ?_
  exact fun _ => rfl

theorem safe_onTick (hI : (rechargeCase env order alone).Inv s) :
    (rechargeCase env order alone).Safe (onTick ref) s := by
  refine (triple_getObj hI).bind fun obj t _ _ h => ?_
  obtain ⟨rfl, -⟩ := h
  split
  · exact safe_createExternalTransObj hI
  · exact Safe.pure hI

/-- The order is changed to the state in which the mint is made. -/
theorem safe_toInternalWaitOnChain (hI : (rechargeCase env order alone).Inv s)
    (hc : (rechargeCase env order alone).Confirmed s) :
    (rechargeCase env order alone).Safe
      (changeState (internalWaitOnChain env) ref .INTERNAL_WAIT_ON_CHAIN) s :=
  stateSafe_internalWaitOnChain.changeState hI ⟨fun _ => hc, fun h => (nomatch h)⟩

/-- In development mode there is nothing to confirm. -/
theorem safe_onEnterState (hI : (rechargeCase env order alone).Inv s) :
    (rechargeCase env order alone).Safe (onEnterState env ref) s := by
  refine (triple_isDevTest hI).bind fun devTest t _ hI hdev => ?_
  split
  · next h =>
    refine safe_toInternalWaitOnChain hI fun hoff => ?_
    exact absurd (hdev.symm.trans h) (by simp [hoff])
  · exact safe_createExternalTransObj hI

theorem triple_verifyTxId {txId : JsString} (hI : (rechargeCase env order alone).Inv s) :
    (rechargeCase env order alone).logic.Triple (verifyTxId ref txId) s fun _ t => s = t ∧
      txId = order.walletTxId := by
  refine (triple_getObj hI).bind fun obj t _ _ h => ?_
  obtain ⟨rfl, hobj⟩ := h
  exact triple_throwIf hI fun h => ⟨rfl, (not_not.1 h).trans (hI.object hobj).inTx⟩

theorem safe_onExternalChainSuccessCallback {txId : JsString}
    (hI : (rechargeCase env order alone).Inv s)
    (hreport : ⟨.external, true, txId⟩ ∈ s.reports) :
    (rechargeCase env order alone).Safe (onExternalChainSuccessCallback env ref txId) s := by
  refine (triple_verifyTxId hI).bind fun _ t _ _ h => ?_
  obtain ⟨rfl, rfl⟩ := h
  exact safe_toInternalWaitOnChain hI fun _ _ => hreport

theorem safe_onExternalChainFailCallback {txId : JsString}
    (hI : (rechargeCase env order alone).Inv s) :
    (rechargeCase env order alone).Safe (onExternalChainFailCallback ref txId) s := by
  refine (triple_verifyTxId hI).bind fun _ t _ _ h => ?_
  obtain ⟨rfl, -⟩ := h
  exact stateSafe_externalOnChainFail.changeState hI
    ⟨fun h => (nomatch h), fun h => (nomatch h)⟩

end ExternalWaitOnChain

open ExternalWaitOnChain in
theorem stateSafe_externalWaitOnChain :
    (rechargeCase env order alone).StateSafe .EXTERNAL_WAIT_ON_CHAIN (externalWaitOnChain env) where
  enter ref _ hI _ := (safe_saveObjState hI).bind fun _ _ _ hI _ =>
    (safe_onEnterState hI).bind fun _ _ _ hI _ => Safe.pure hI
  onTick _ _ hI _ := safe_onTick hI
  onToTxStartCallback _ _ hI _ := Safe.pure hI
  onInternalChainTryTransferCallback _ _ _ hI _ := Safe.pure hI
  onChainCallback side success _ _ _ hI _ hreport := by
    cases side <;> cases success
    case external.false => exact safe_onExternalChainFailCallback hI
    case external.true => exact safe_onExternalChainSuccessCallback hI hreport
    case internal.false => exact Safe.pure hI
    case internal.true => exact Safe.pure hI

/-! ## The manager -/

theorem safe_retryExternalOnChain (hI : (rechargeCase env order alone).Inv s) :
    (rechargeCase env order alone).Safe (retryExternalOnChain env) s := by
  refine (triple_findOneByForce hI).bind fun row t _ hI _ => ?_
  refine (safe_neutral hI rfl).bind fun updateTransSuccess t _ hI _ => ?_
  refine (triple_throwIf hI fun _ => trivial).bind (Q := fun _ _ => True) fun _ t _ hI _ => ?_
  refine (safe_update hI fun t _ => ?_).bind fun affected t _ hI _ => ?_
  · exact ⟨fun h => (nomatch h), fun h => (nomatch h)⟩
  refine (triple_throwIf hI fun _ => trivial).bind (Q := fun _ _ => True) fun _ t _ hI _ => ?_
  exact safe_createOrderObj hI

theorem safe_retryInternalOnChain (hI : (rechargeCase env order alone).Inv s) :
    (rechargeCase env order alone).Safe retryInternalOnChain s := by
  refine triple_store ?_
  refine Triple.bind (safe_update hI fun t hst => ?_) fun affected t _ hI _ => ?_
  · exact ⟨fun _ => hst.confirmed rfl, fun h => (nomatch h)⟩
  refine (triple_throwIf hI fun _ => trivial).bind (Q := fun _ _ => True) fun _ t _ hI _ => ?_
  exact safe_createOrderObj hI

/-- An issue waits for its deposit; an airdrop has none. -/
theorem entityOk_setOrderPending {e : RechargeOrder}
    (h : (rechargeCase env order alone).EntityOk s e) :
    (rechargeCase env order alone).EntityOk s (setOrderPending e) := by
  unfold setOrderPending
  split
  · exact h.setState ⟨fun h => (nomatch h), fun h => (nomatch h)⟩
  · next htype =>
    refine h.setState ⟨fun _ _ hdeposits => ?_, fun h => (nomatch h)⟩
    have hno : decide (e.rechargeType = .ISSUE) = true := h.deposits.trans hdeposits
    rw [htype] at hno
    cases hno
  · exact h

theorem mgrSafe : (rechargeCase env order alone).MgrSafe where
  states st := by
    cases st
    case INIT => exact stateSafe_base _
    case EXTERNAL_WAIT_ON_CHAIN => exact stateSafe_externalWaitOnChain
    case EXTERNAL_ON_CHAIN_FAIL => exact stateSafe_externalOnChainFail
    case INTERNAL_WAIT_ON_CHAIN => exact stateSafe_internalWaitOnChain
    case INTERNAL_ON_CHAIN_FAIL => exact stateSafe_internalOnChainFail
    case SUCCESS => exact stateSafe_success
  setOrderPending _ _ _ h := entityOk_setOrderPending h
  onQueueInited _ _ hI := InternalWaitOnChain.safe_onQueueInited hI
  retryExternalOnChain _ hI := safe_retryExternalOnChain hI
  retryInternalOnChain _ hI := safe_retryInternalOnChain hI

end RechargeOrder

end CotServer
