import CotServer.Model.Recharge.Order
import CotServer.Verify.Order.Terms

/-!
# The terms of a recharge order
-/

namespace CotServer.RechargeOrder

open Async Contract OrderObj OrderTerms

/-- The order but for its state and its outgoing transaction. -/
def terms (order : RechargeOrder) : RechargeOrder :=
  { order with state := .INIT, rechargeTxId := [], rechargeTxOnChain := false }

/-- The account that mints for the order. -/
def mintAccount (order : RechargeOrder) : JsString :=
  INTERNAL_CHAIN_RW_ACCOUNT_TYPE.RECHARGEV2_ACCOUNT.toJs ++ js "_" ++ order.internalChain ++
    js "_" ++ order.rechargeAssetType

/-- What may be asked for a recharge order. -/
def Asked (known : Settings) (order : RechargeOrder) :
    OrderOp RechargeOrder RECHARGE_ORDER_STATE_ID → Prop
  | .save value => value.terms = order.terms
  | .createInternalIncreaseAsset req => order.rechargeType = .ISSUE ∧ order.rechargeAmount ≠ 0 ∧
    ∃ secret config item, known.rwkeypair order.mintAccount secret ∧ known.config config ∧
      RechargeHelper.checkChainAssetItem config order.internalChain order.rechargeAssetType =
        .ok item ∧
      req =
        { chainName := order.internalChain
          secret
          recipientId := order.internalAddress
          increasedAssetPrealnum := order.rechargeAmount
          assetType := order.rechargeAssetType
          applyAddress := item.applyAddress
          param := { linkType := .RECHARGE_ORDER, linkId := order.entityId } }
  | .createInternalTransfer req => order.rechargeType = .AIRDROP ∧ order.rechargeAmount ≠ 0 ∧
    ∃ secret, known.rwkeypair INTERNAL_CHAIN_RW_ACCOUNT_TYPE.AIRDROP_ACCOUNT.toJs secret ∧
      req =
        { chainName := order.internalChain
          secret
          recipientId := order.internalAddress
          assetType := order.rechargeAssetType
          amount := order.rechargeAmount
          param := { linkType := .RECHARGE_ORDER, linkId := order.entityId } }
  | .createInternalTransObj chainName _ => chainName = order.internalChain
  | .createExternalTransObj chainName txId | .updateExternalTransState chainName txId =>
    chainName = order.walletChain ∧ txId = order.walletTxId
  | .createExternalTransfer _ | .updateInternalTransState .. => False
  | _ => True

theorem asked_terms (known : Settings) (order : RechargeOrder)
    (op : OrderOp RechargeOrder RECHARGE_ORDER_STATE_ID) :
    Asked known order.terms op = Asked known order op := by
  cases op <;> rfl

theorem Asked.of_terms {known : Settings} {value order : RechargeOrder}
    {op : OrderOp RechargeOrder RECHARGE_ORDER_STATE_ID} (h : value.terms = order.terms)
    (hop : Asked known value op) : Asked known order op := by
  rwa [← asked_terms, ← h, asked_terms]

def orderTerms (known : Settings) (order : RechargeOrder) :
    OrderTerms RechargeOrder RECHARGE_ORDER_STATE_ID where
  known
  Agrees value := value.terms = order.terms
  Asked := Asked known order
  agrees_setState h := h
  asked_save := Iff.rfl
  asked_plain {op} hop := by
    cases op with
    | save | createExternalTransObj | createInternalTransObj | createInternalIncreaseAsset
    | createInternalTransfer | createExternalTransfer | updateExternalTransState
    | updateInternalTransState => cases hop
    | _ => trivial

variable {known : Settings} {order value : RechargeOrder} {env : OrderEnv} {ref : Ref}
  {txId : JsString}

theorem upholds_call {op : OrderOp RechargeOrder RECHARGE_ORDER_STATE_ID}
    (h : value.terms = order.terms) (hop : Asked known value op) :
    (orderTerms known order).Upholds (call op) :=
  .asked (Asked.of_terms h hop)

/-! ## `InternalWaitOnChain_RechargeOrderState` -/

namespace InternalWaitOnChain

theorem upholds_onTick : (orderTerms known order).Upholds (onTick ref) := by
  refine Upholds.getObj.bind fun obj _ => .store fun s _ => .ite ?_ (.pure trivial)
  exact .bind (Upholds.modifyObj fun _ h => h) fun _ _ => Upholds.publishOrderEvent _

theorem upholds_onQueueInited : (orderTerms known order).Upholds (onQueueInited ref) :=
  Upholds.getObj.bind fun _ _ => .ite (.pure trivial) (Upholds.publishOrderEvent _)

theorem upholds_onToTxStartCallback : (orderTerms known order).Upholds (onToTxStartCallback env ref) :=
  Upholds.getObj.bind fun _ _ => .ite (Upholds.publishOrderEvent _) (.pure trivial)

theorem upholds_forceGetRWKeypair (accountType : JsString) :
    (orderTerms known order).Upholds (forceGetRWKeypair accountType) (known.rwkeypair accountType) := by
  refine .store fun s hs => ?_
  split
  · next secret h => exact .pure (hs.2.rwkeypair h)
  · exact .throw

theorem upholds_record : (orderTerms known order).Upholds (do
    modifyObj ref (RechargeOrderObj.setRechargeTxId txId)
    save ref
    return txId : RechargeAsync JsString) :=
  .bind (Upholds.modifyObj fun _ h => h) fun _ _ => Upholds.save.bind fun _ _ => .pure trivial

theorem upholds_createTransfer (hvalue : value.terms = order.terms)
    (hamount : value.rechargeAmount ≠ 0) :
    (orderTerms known order).Upholds (createTransfer ref value) := by
  unfold createTransfer
  dsimp only
  split
  · next htype =>
    refine Upholds.getConfigByKeyForce.bind fun config hconfig => ?_
    refine (upholds_forceGetRWKeypair _).bind fun secret hsecret => ?_
    refine Upholds.bind (.settle fun item h => h) fun item hitem => ?_
    refine Upholds.bind (upholds_call hvalue ?_) fun txId _ => upholds_record
    exact ⟨htype, hamount, secret, config, item, hsecret, hconfig, hitem, rfl⟩
  · next htype =>
    refine (upholds_forceGetRWKeypair _).bind fun secret hsecret => ?_
    refine Upholds.bind (upholds_call hvalue ?_) fun txId _ => upholds_record
    exact ⟨htype, hamount, secret, hsecret, rfl⟩
  · exact .throw

theorem upholds_startTransfer : (orderTerms known order).Upholds (startTransfer env ref) := by
  refine Upholds.getObj.bind fun obj hobj => ?_
  have hstart : ∀ txId, (orderTerms known order).Upholds
      (createInternalTransObj obj.entity.internalChain txId) := fun txId =>
    Upholds.bind (.update fun _ hs => inv_same hs rfl rfl rfl) fun _ _ =>
      upholds_call hobj rfl
  dsimp only
  split
  · exact .pure trivial
  next hamount =>
  refine .ite (.pure trivial) (.ite ?_
    (.bind (.pure (Q := fun _ => True) trivial) fun txId _ => hstart txId))
  refine Upholds.bind (.tryCatch (upholds_createTransfer hobj hamount) fun e => ?_)
    fun txId _ => hstart txId
  exact Upholds.bind (Upholds.plain rfl) fun _ _ => .throw

theorem upholds_verifyTxId : (orderTerms known order).Upholds (verifyTxId ref txId) :=
  Upholds.getObj.bind fun _ _ => .mono .throwIf fun _ _ => trivial

theorem upholds_onInternalChainSuccessCallback :
    (orderTerms known order).Upholds (onInternalChainSuccessCallback ref txId) := by
  refine upholds_verifyTxId.bind fun _ _ => .bind (Upholds.modifyObj fun obj h => ?_) fun _ _ => ?_
  · split <;> exact h
  refine Upholds.save.bind fun _ _ => Upholds.getObj.bind fun obj _ => .ite ?_ (.pure trivial)
  exact (stateKeeps_final fun _ => Upholds.publishOrderEvent _).changeState _ _

theorem upholds_retryToTx : (orderTerms known order).Upholds (retryToTx env ref txId) := by
  refine .store fun s _ => .bind (Upholds.acceptFailure fun _ h => h) fun _ _ => ?_
  refine Upholds.save.bind fun _ _ => Upholds.getObj.bind fun obj _ => .ite (.pure trivial) ?_
  exact .ite ((stateKeeps_final fun _ => .pure trivial).changeState _ _) (.pure trivial)

theorem upholds_onInternalChainFailCallback :
    (orderTerms known order).Upholds (onInternalChainFailCallback env ref txId) :=
  upholds_verifyTxId.bind fun _ _ => Upholds.getObj.bind fun _ _ => .ite upholds_retryToTx (.pure trivial)

end InternalWaitOnChain

open InternalWaitOnChain in
theorem stateKeeps_internalWaitOnChain :
    (orderTerms known order).StateKeeps (internalWaitOnChain env) where
  beforeEnterState _ := .saveState
  onEnterState _ := .update fun _ hs => inv_same hs rfl rfl rfl
  afterEnterState _ := .pure trivial
  onTick _ := upholds_onTick
  onToTxStartCallback _ := upholds_onToTxStartCallback
  onInternalChainTryTransferCallback _ _ := upholds_startTransfer
  onChainCallback side success _ _ := by
    cases side <;> cases success
    case external.false => exact .pure trivial
    case external.true => exact .pure trivial
    case internal.false => exact upholds_onInternalChainFailCallback
    case internal.true => exact upholds_onInternalChainSuccessCallback

/-! ## `ExternalWaitOnChain_RechargeOrderState` -/

namespace ExternalWaitOnChain

theorem upholds_createExternalTransObj :
    (orderTerms known order).Upholds (createExternalTransObj ref) :=
  Upholds.getObj.bind fun _ hobj => Upholds.bind (upholds_call hobj ⟨rfl, rfl⟩) fun _ _ =>
    Upholds.modifyObj fun _ h => h

theorem upholds_onEnterState : (orderTerms known order).Upholds (onEnterState env ref) :=
  Upholds.bind (Upholds.plain rfl) fun _ _ =>
    .ite (stateKeeps_internalWaitOnChain.changeState _ _) upholds_createExternalTransObj

theorem upholds_verifyTxId : (orderTerms known order).Upholds (verifyTxId ref txId) :=
  Upholds.getObj.bind fun _ _ => .mono .throwIf fun _ _ => trivial

end ExternalWaitOnChain

open ExternalWaitOnChain in
theorem stateKeeps_externalWaitOnChain :
    (orderTerms known order).StateKeeps (externalWaitOnChain env) where
  beforeEnterState _ := .saveState
  onEnterState _ := upholds_onEnterState
  afterEnterState _ := .pure trivial
  onTick _ := Upholds.getObj.bind fun _ _ => .ite upholds_createExternalTransObj (.pure trivial)
  onToTxStartCallback _ := .pure trivial
  onInternalChainTryTransferCallback _ _ := .pure trivial
  onChainCallback side success _ _ := by
    cases side <;> cases success
    case external.false =>
      exact upholds_verifyTxId.bind fun _ _ =>
        (stateKeeps_final fun _ => .pure trivial).changeState _ _
    case external.true =>
      exact upholds_verifyTxId.bind fun _ _ => stateKeeps_internalWaitOnChain.changeState _ _
    case internal.false => exact .pure trivial
    case internal.true => exact .pure trivial

theorem mgrKeeps : (orderTerms known order).MgrKeeps (rechargeOrderMgr env) where
  states st := by
    cases st
    case INIT => exact stateKeeps_base
    case EXTERNAL_WAIT_ON_CHAIN => exact stateKeeps_externalWaitOnChain
    case EXTERNAL_ON_CHAIN_FAIL => exact stateKeeps_final fun _ => .pure trivial
    case INTERNAL_WAIT_ON_CHAIN => exact stateKeeps_internalWaitOnChain
    case INTERNAL_ON_CHAIN_FAIL => exact stateKeeps_final fun _ => .pure trivial
    case SUCCESS => exact stateKeeps_final fun _ => Upholds.publishOrderEvent _
  setOrderPending {e} h := by
    change (setOrderPending e).terms = _
    unfold setOrderPending
    split <;> exact h
  onQueueInited _ := InternalWaitOnChain.upholds_onQueueInited
  retryExternalOnChain := by
    refine Upholds.findOneByForce.bind fun row hrow => ?_
    refine Upholds.bind (upholds_call hrow ⟨rfl, rfl⟩) fun done _ => ?_
    refine Upholds.bind .throwIf fun _ _ => Upholds.bind (Upholds.plain rfl) fun affected _ => ?_
    exact Upholds.bind .throwIf fun _ _ => Upholds.createOrderObj
  retryInternalOnChain := by
    refine .store fun s _ => ?_
    exact Upholds.bind (Upholds.plain rfl) fun _ _ => Upholds.bind .throwIf fun _ _ =>
      Upholds.createOrderObj

end CotServer.RechargeOrder
