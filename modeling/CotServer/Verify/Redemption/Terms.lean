import CotServer.Model.Redemption.Order
import CotServer.Verify.Order.Terms

/-!
# The terms of a redemption order
-/

namespace CotServer.RedemptionOrder

open Async Contract OrderObj OrderTerms

/-- The order but for its state and its outgoing transaction. -/
def terms (order : RedemptionOrder) : RedemptionOrder :=
  { order with state := .INIT, walletTxId := [] }

/-- What may be asked for a redemption order. -/
def Asked (known : Settings) (order : RedemptionOrder) :
    OrderOp RedemptionOrder REDEMPTION_ORDER_STATE_ID → Prop
  | .save value => value.terms = order.terms
  | .createExternalTransfer req =>
    ∃ account, known.externalkeypair order.walletChain order.walletAsset account ∧
      req =
        { chainName := order.walletChain
          account
          recipientId := order.walletAddress
          contractAddress := order.contractAddress
          amount := order.walletAmount
          param := { linkType := .REDEMPTION_ORDER, linkId := order.entityId } }
  | .createExternalTransObj chainName _ => chainName = some order.walletChain
  | .createInternalTransObj chainName txId | .updateInternalTransState chainName txId =>
    chainName = order.internalChain ∧ txId = order.redemptionTxId
  | .createInternalIncreaseAsset _ | .createInternalTransfer _ | .updateExternalTransState .. =>
    False
  | _ => True

theorem asked_terms (known : Settings) (order : RedemptionOrder)
    (op : OrderOp RedemptionOrder REDEMPTION_ORDER_STATE_ID) :
    Asked known order.terms op = Asked known order op := by
  cases op <;> rfl

theorem Asked.of_terms {known : Settings} {value order : RedemptionOrder}
    {op : OrderOp RedemptionOrder REDEMPTION_ORDER_STATE_ID} (h : value.terms = order.terms)
    (hop : Asked known value op) : Asked known order op := by
  rwa [← asked_terms, ← h, asked_terms]

def orderTerms (known : Settings) (order : RedemptionOrder) :
    OrderTerms RedemptionOrder REDEMPTION_ORDER_STATE_ID where
  known
  Agrees value := value.terms = order.terms
  Asked := Asked known order
  agrees_setState h := h
  asked_save := Iff.rfl
  asked_plain {op} hop := by
    cases op with
    | save | createExternalTransObj | createInternalTransObj | createInternalIncreaseAsset
    | createInternalTransfer | createExternalTransfer | updateExternalTransState
    | updateInternalTransState => cases hop
    | _ => trivial

variable {known : Settings} {order value : RedemptionOrder} {env : OrderEnv} {ref : Ref}
  {txId : JsString}

theorem upholds_call {op : OrderOp RedemptionOrder REDEMPTION_ORDER_STATE_ID}
    (h : value.terms = order.terms) (hop : Asked known value op) :
    (orderTerms known order).Upholds (call op) :=
  .asked (Asked.of_terms h hop)

/-! ## `ExternalWaitOnChain_RedemptionOrderState` -/

namespace ExternalWaitOnChain

theorem upholds_onTick : (orderTerms known order).Upholds (onTick ref) := by
  refine Upholds.getObj.bind fun obj _ => .store fun s _ => .ite ?_ (.pure trivial)
  exact .bind (Upholds.modifyObj fun _ h => h) fun _ _ => Upholds.publishOrderEvent _

theorem stateKeeps_success : (orderTerms known order).StateKeeps success :=
  stateKeeps_final fun _ => Upholds.publishOrderEvent _

theorem upholds_onEnterState : (orderTerms known order).Upholds (onEnterState ref) :=
  Upholds.bind (Upholds.plain rfl) fun _ _ =>
    .ite (stateKeeps_success.changeState _ _) (Upholds.publishOrderEvent _)

theorem upholds_forceGetExternalKeypair (chainName : ExternalChainName) (assetType : JsString) :
    (orderTerms known order).Upholds (forceGetExternalKeypair chainName assetType)
      (known.externalkeypair chainName assetType) := by
  refine .store fun s hs => ?_
  split
  · next account h => exact .pure (hs.2.externalkeypair h)
  · exact .throw

theorem upholds_createTransfer (hvalue : value.terms = order.terms) :
    (orderTerms known order).Upholds (createTransfer ref value) := by
  refine (upholds_forceGetExternalKeypair _ _).bind fun account haccount => ?_
  refine Upholds.bind (upholds_call hvalue ⟨account, haccount, rfl⟩) fun txId _ => ?_
  exact .bind (Upholds.modifyObj fun _ h => h) fun _ _ => Upholds.save

theorem upholds_waitForRetry (e : Err) :
    (orderTerms known order).Upholds (waitForRetry env value e) := by
  refine .ite (.bind (Upholds.plain rfl) fun forgeInterval _ => ?_)
    (.bind (Upholds.plain rfl) fun _ _ => .throw)
  exact .bind (Upholds.plain rfl) fun _ _ => .throw

theorem upholds_startTransfer : (orderTerms known order).Upholds (startTransfer env ref) := by
  refine Upholds.getObj.bind fun obj hobj => ?_
  have hstart : (orderTerms known order).Upholds (do
      let obj' ← getObj ref
      createExternalTransObj obj.entity.walletChain obj'.entity.walletTxId
        : RedemptionAsync Unit) := by
    refine Upholds.getObj.bind fun obj' _ => ?_
    exact Upholds.bind (.update fun _ hs => inv_same hs rfl rfl rfl) fun _ _ =>
      upholds_call hobj rfl
  dsimp only
  split
  · exact .bind (.tryCatch (upholds_createTransfer hobj) upholds_waitForRetry) fun _ _ => hstart
  · exact hstart

theorem upholds_verifyTxId : (orderTerms known order).Upholds (verifyTxId ref txId) :=
  Upholds.getObj.bind fun _ _ => .mono .throwIf fun _ _ => trivial

theorem upholds_retryToTx : (orderTerms known order).Upholds (retryToTx env ref txId) := by
  refine .store fun s _ => .bind (Upholds.acceptFailure fun _ h => h) fun _ _ => ?_
  refine Upholds.save.bind fun _ _ => Upholds.getObj.bind fun obj _ => .ite (.pure trivial) ?_
  exact (stateKeeps_final fun _ => .pure trivial).changeState _ _

end ExternalWaitOnChain

open ExternalWaitOnChain in
theorem stateKeeps_externalWaitOnChain :
    (orderTerms known order).StateKeeps (externalWaitOnChain env) where
  beforeEnterState _ := .saveState
  onEnterState _ := upholds_onEnterState
  afterEnterState _ := .pure trivial
  onTick _ := upholds_onTick
  onToTxStartCallback _ := upholds_startTransfer
  onInternalChainTryTransferCallback _ _ := .pure trivial
  onChainCallback side success _ _ := by
    cases side <;> cases success
    case external.false => exact upholds_verifyTxId.bind fun _ _ => upholds_retryToTx
    case external.true => exact upholds_verifyTxId.bind fun _ _ => stateKeeps_success.changeState _ _
    case internal.false => exact .pure trivial
    case internal.true => exact .pure trivial

/-! ## `InternalWaitOnChain_RedemptionOrderState` -/

namespace InternalWaitOnChain

/-- The burn is handed to the wallet. -/
theorem upholds_createInternalTransObj {obj : OrderObj RedemptionOrder}
    (hobj : obj.entity.terms = order.terms) : (orderTerms known order).Upholds (do
      call (OrderOp.createInternalTransObj obj.entity.internalChain obj.entity.redemptionTxId)
      modifyObj ref fun obj => { obj with createFromTxObjSuccess := true } : RedemptionAsync Unit) :=
  .bind (upholds_call hobj ⟨rfl, rfl⟩) fun _ _ => Upholds.modifyObj fun _ h => h

theorem upholds_onEnterState : (orderTerms known order).Upholds (onEnterState ref) :=
  Upholds.getObj.bind fun _ hobj => upholds_createInternalTransObj hobj

theorem upholds_onTick : (orderTerms known order).Upholds (onTick ref) :=
  Upholds.getObj.bind fun _ hobj => .ite (upholds_createInternalTransObj hobj) (.pure trivial)

theorem upholds_verifyTxId : (orderTerms known order).Upholds (verifyTxId ref txId) :=
  Upholds.getObj.bind fun _ _ => .mono .throwIf fun _ _ => trivial

end InternalWaitOnChain

open InternalWaitOnChain in
theorem stateKeeps_internalWaitOnChain :
    (orderTerms known order).StateKeeps (internalWaitOnChain env) where
  beforeEnterState _ := .saveState
  onEnterState _ := upholds_onEnterState
  afterEnterState _ := .pure trivial
  onTick _ := upholds_onTick
  onToTxStartCallback _ := .pure trivial
  onInternalChainTryTransferCallback _ _ := .pure trivial
  onChainCallback side success _ _ := by
    cases side <;> cases success
    case external.false => exact .pure trivial
    case external.true => exact .pure trivial
    case internal.false =>
      exact upholds_verifyTxId.bind fun _ _ =>
        (stateKeeps_final fun _ => .pure trivial).changeState _ _
    case internal.true =>
      exact upholds_verifyTxId.bind fun _ _ => stateKeeps_externalWaitOnChain.changeState _ _

theorem mgrKeeps : (orderTerms known order).MgrKeeps (redemptionOrderMgr env) where
  states st := by
    cases st
    case INIT => exact stateKeeps_base
    case INTERNAL_WAIT_ON_CHAIN => exact stateKeeps_internalWaitOnChain
    case INTERNAL_ON_CHAIN_FAIL => exact stateKeeps_final fun _ => .pure trivial
    case EXTERNAL_WAIT_ON_CHAIN => exact stateKeeps_externalWaitOnChain
    case EXTERNAL_ON_CHAIN_FAIL => exact stateKeeps_final fun _ => .pure trivial
    case SUCCESS => exact stateKeeps_final fun _ => Upholds.publishOrderEvent _
  setOrderPending h := h
  onQueueInited _ := .pure trivial
  retryExternalOnChain := by
    refine .store fun s _ => ?_
    exact Upholds.bind (Upholds.plain rfl) fun _ _ => Upholds.bind .throwIf fun _ _ =>
      Upholds.createOrderObj
  retryInternalOnChain := by
    refine Upholds.findOneByForce.bind fun row hrow => ?_
    refine Upholds.bind (upholds_call hrow ⟨rfl, rfl⟩) fun done _ => ?_
    refine Upholds.bind .throwIf fun _ _ => Upholds.bind (Upholds.plain rfl) fun affected _ => ?_
    exact Upholds.bind .throwIf fun _ _ => Upholds.createOrderObj

end CotServer.RedemptionOrder
