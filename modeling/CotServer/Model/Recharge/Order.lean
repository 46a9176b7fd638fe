import CotServer.Model.Order.Worker

/-!
# Recharge orders in the order worker

The states of a recharge order, its manager, and the two retries of `RechargeService`. States come
before the states that change into them.
-/

namespace CotServer

instance : OrderEntity RechargeOrder RECHARGE_ORDER_STATE_ID where
  entityId order := order.entityId
  state order := order.state
  setState state order := { order with state }
  state_setState _ _ := rfl
  entityId_setState _ _ := rfl

/-- An order as `rechargeV2` creates it: the outgoing transaction has the id of the order until there
is one. -/
structure RechargeOrder.New (order : RechargeOrder) : Prop where
  state : order.state = .INIT
  rechargeTxId : order.rechargeTxId = order.entityId

abbrev RechargeOrderObj := OrderObj RechargeOrder

abbrev RechargeAsync := OrderAsync RechargeOrder RECHARGE_ORDER_STATE_ID

abbrev RechargeOrderState := OrderState RechargeOrder RECHARGE_ORDER_STATE_ID

namespace RechargeOrderObj

/-- The setter of `rechargeTxId`. -/
def setRechargeTxId (txId : JsString) (obj : RechargeOrderObj) : RechargeOrderObj :=
  { obj with entity := { obj.entity with rechargeTxId := txId } }

def setRechargeTxOnChain (isOnChain : Bool) (obj : RechargeOrderObj) : RechargeOrderObj :=
  { obj with entity := { obj.entity with rechargeTxOnChain := isOnChain } }

def isRechargeTxFinish (env : OrderEnv) (obj : RechargeOrderObj) : Bool :=
  obj.entity.rechargeTxOnChain || obj.retryTxNum > env.INTERNAL_TRANS_RETRY_MAX_NUM

end RechargeOrderObj

namespace RechargeOrder

open Async OrderObj RechargeOrderObj

variable (env : OrderEnv)

/-! ## Final states -/

def externalOnChainFail : RechargeOrderState where
  afterEnterState := close

def internalOnChainFail : RechargeOrderState where
  afterEnterState := close

def success : RechargeOrderState where
  onEnterState _ := publishOrderEvent .SUCCESS
  afterEnterState := close

/-! ## `InternalWaitOnChain_RechargeOrderState` -/

namespace InternalWaitOnChain

def onTick (ref : Ref) : RechargeAsync Unit := do
  let obj ← getObj ref
  let s ← store
  if obj.retryTxStamp.any fun stamp => stamp ≠ 0 ∧ s.now ≥ stamp then
    modifyObj ref fun obj => { obj with retryTxStamp := none }
    publishOrderEvent (.TRY_TRANSFER (some .RECHARGEV2_ACCOUNT))

def onEnterState (ref : Ref) : RechargeAsync Unit :=
  update fun s => { s with waiting := s.waiting ++ [ref] }

/-- What `onEnterState` does when the queues have been initialised. -/
def onQueueInited (ref : Ref) : RechargeAsync Unit := do
  let obj ← getObj ref
  if obj.curStateId ≠ .INTERNAL_WAIT_ON_CHAIN then
    return
  publishOrderEvent .TO_TX_START

def onToTxStartCallback (ref : Ref) : RechargeAsync Unit := do
  let obj ← getObj ref
  if obj.entity.rechargeAmount > 0 ∧ !isRechargeTxFinish env obj then
    publishOrderEvent (.TRY_TRANSFER (some .RECHARGEV2_ACCOUNT))

/-- `__memoryService.forceGetRWKeypair(accountType).secret`. -/
def forceGetRWKeypair (accountType : JsString) : RechargeAsync JsString := do
  let s ← store
  match s.rwkeypairMap accountType with
  | some secret => return secret
  | none => throw (.error (accountType ++ js " is not inject"))

def createInternalIncreaseAsset (req : IncreaseAssetReq) : RechargeAsync JsString :=
  call (OrderOp.createInternalIncreaseAsset req)

def createInternalTransfer (req : InternalTransferReq) : RechargeAsync JsString :=
  call (OrderOp.createInternalTransfer req)

def getConfigByKeyForce : RechargeAsync RechargeObject := call OrderOp.getConfigByKeyForce

/-- `walletServerSdk.createInternalTransObj`, on record as a start. -/
def createInternalTransObj (chainName txId : JsString) : RechargeAsync Unit := do
  update fun s => { s with started := txId :: s.started }
  call (OrderOp.createInternalTransObj chainName txId)

/-- The `try` block of `__startTransfer`; `order` holds the values read at its beginning. -/
def createTransfer (ref : Ref) (order : RechargeOrder) : RechargeAsync JsString := do
  let param : TransParam := { linkType := .RECHARGE_ORDER, linkId := order.entityId }
  match order.rechargeType with
  | .ISSUE =>
    let recharge ← getConfigByKeyForce
    let platformSecret ← forceGetRWKeypair
      (INTERNAL_CHAIN_RW_ACCOUNT_TYPE.RECHARGEV2_ACCOUNT.toJs ++ js "_" ++ order.internalChain ++
        js "_" ++ order.rechargeAssetType)
    let rechargeItem ← settle
      (RechargeHelper.checkChainAssetItem recharge order.internalChain order.rechargeAssetType)
    let txId ← createInternalIncreaseAsset
      { chainName := order.internalChain
        secret := platformSecret
        recipientId := order.internalAddress
        increasedAssetPrealnum := order.rechargeAmount
        assetType := order.rechargeAssetType
        applyAddress := rechargeItem.applyAddress
        param }
    modifyObj ref (setRechargeTxId txId)
    save ref
    return txId
  | .AIRDROP =>
    let platformSecret ← forceGetRWKeypair INTERNAL_CHAIN_RW_ACCOUNT_TYPE.AIRDROP_ACCOUNT.toJs
    let txId ← createInternalTransfer
      { chainName := order.internalChain
        secret := platformSecret
        recipientId := order.internalAddress
        assetType := order.rechargeAssetType
        amount := order.rechargeAmount
        param }
    modifyObj ref (setRechargeTxId txId)
    save ref
    return txId
  | .other code => throw (.error (js "not support this rechargeType " ++ js (toString code)))

/-- `__startTransfer`; its `accountType` is not used. -/
def startTransfer (ref : Ref) : RechargeAsync Unit := do
  let obj ← getObj ref
  let order := obj.entity
  if order.rechargeAmount = 0 then
    return
  if isRechargeTxFinish env obj then
    return
  let txId ←
    if order.rechargeTxId = order.entityId then
      tryCatch (createTransfer ref order) fun e => do
        call (OrderOp.sleep env.INTERNAL_TRANS_RETRY_INVERVAL)
        throw e
    else
      pure order.rechargeTxId
  createInternalTransObj order.internalChain txId

def verifyTxId (ref : Ref) (txId : JsString) : RechargeAsync Unit := do
  let obj ← getObj ref
  throwIf (txId ≠ obj.entity.rechargeTxId)
    (.error (js "txId:" ++ txId ++ js "  orderObj.rechargeTxId:" ++ obj.entity.rechargeTxId))

def onInternalChainSuccessCallback (ref : Ref) (txId : JsString) : RechargeAsync Unit := do
  verifyTxId ref txId
  modifyObj ref fun obj =>
    if obj.entity.rechargeTxId = txId then setRechargeTxOnChain true obj else obj
  save ref
  let obj ← getObj ref
  if obj.entity.rechargeTxOnChain then
    changeState success ref .SUCCESS

/-- `__retryToTx`; `txId` is the transaction that has failed. -/
def retryToTx (ref : Ref) (txId : JsString) : RechargeAsync Unit := do
  let s ← store
  acceptFailure ref txId fun obj =>
    { setRechargeTxId obj.entity.entityId obj with
      retryTxStamp := some (s.now + env.INTERNAL_TRANS_RETRY_INVERVAL)
      retryTxNum := obj.retryTxNum + 1 }
  save ref
  let obj ← getObj ref
  if obj.retryTxNum ≤ env.INTERNAL_TRANS_RETRY_MAX_NUM then
    return
  if isRechargeTxFinish env obj then
    changeState internalOnChainFail ref .INTERNAL_ON_CHAIN_FAIL

def onInternalChainFailCallback (ref : Ref) (txId : JsString) : RechargeAsync Unit := do
  verifyTxId ref txId
  let obj ← getObj ref
  if obj.entity.rechargeTxId = txId then
    retryToTx env ref txId

end InternalWaitOnChain

open InternalWaitOnChain in
def internalWaitOnChain : RechargeOrderState where
  beforeEnterState := saveState
  onEnterState := onEnterState
  onTick := onTick
  onToTxStartCallback := onToTxStartCallback env
  onInternalChainTryTransferCallback ref _ := startTransfer env ref
  onInternalChainSuccessCallback := onInternalChainSuccessCallback
  onInternalChainFailCallback := onInternalChainFailCallback env

/-! ## `ExternalWaitOnChain_RechargeOrderState` -/

namespace ExternalWaitOnChain

def createExternalTransObj (ref : Ref) : RechargeAsync Unit := do
  let obj ← getObj ref
  call (OrderOp.createExternalTransObj obj.entity.walletChain obj.entity.walletTxId)
  modifyObj ref fun obj => { obj with createFromTxObjSuccess := true }

def onTick (ref : Ref) : RechargeAsync Unit := do
  let obj ← getObj ref
  if !obj.createFromTxObjSuccess then
    createExternalTransObj ref

def isRechargeDevTest : RechargeAsync Bool := call OrderOp.isDevTest

def onEnterState (ref : Ref) : RechargeAsync Unit := do
  if ← isRechargeDevTest then
    changeState (internalWaitOnChain env) ref .INTERNAL_WAIT_ON_CHAIN
  else
    createExternalTransObj ref

def verifyTxId (ref : Ref) (txId : JsString) : RechargeAsync Unit := do
  let obj ← getObj ref
  throwIf (txId ≠ obj.entity.walletTxId)
    (.error (js "txId:" ++ txId ++ js " !== orderObj.txHash:" ++ obj.entity.walletTxId))

def onExternalChainSuccessCallback (ref : Ref) (txId : JsString) : RechargeAsync Unit := do
  verifyTxId ref txId
  changeState (internalWaitOnChain env) ref .INTERNAL_WAIT_ON_CHAIN

def onExternalChainFailCallback (ref : Ref) (txId : JsString) : RechargeAsync Unit := do
  verifyTxId ref txId
  changeState externalOnChainFail ref .EXTERNAL_ON_CHAIN_FAIL

end ExternalWaitOnChain

open ExternalWaitOnChain in
def externalWaitOnChain : RechargeOrderState where
  beforeEnterState := saveState
  onTick := onTick
  onEnterState := onEnterState env
  onExternalChainSuccessCallback := onExternalChainSuccessCallback env
  onExternalChainFailCallback := onExternalChainFailCallback

/-! ## Retries and the manager -/

def findOneByForce (state : RECHARGE_ORDER_STATE_ID) : RechargeAsync RechargeOrder :=
  call (OrderOp.findOneByForce (some state))

def updateState (state newState : RECHARGE_ORDER_STATE_ID) : RechargeAsync Nat :=
  call (OrderOp.update state newState)

def retryExternalOnChain : RechargeAsync Unit := do
  let order ← findOneByForce .EXTERNAL_ON_CHAIN_FAIL
  let updateTransSuccess : Bool ←
    call (OrderOp.updateExternalTransState order.walletChain order.walletTxId)
  throwIf (updateTransSuccess = false)
    (.error (js "<recharge> update [" ++ orUndefined (order.walletChain.map (·.toJs)) ++
      js "] txId:" ++ order.walletTxId ++ js " to state:" ++ env.EXTERNAL_TRANS_INIT ++
      js " fail"))
  let affected ← updateState .EXTERNAL_ON_CHAIN_FAIL .EXTERNAL_WAIT_ON_CHAIN
  throwIf (affected = 0)
    (.error (js "<recharge> update orderId:" ++ order.entityId ++ js " state:201 to state:2 fail"))
  createOrderObj

def retryInternalOnChain : RechargeAsync Unit := do
  let s ← store
  let affected ← updateState .INTERNAL_ON_CHAIN_FAIL .INTERNAL_WAIT_ON_CHAIN
  throwIf (affected = 0)
    (.error (js "<recharge> update orderId:" ++ s.row.entityId ++ js " state:301 to state:3 fail"))
  createOrderObj

def setOrderPending (order : RechargeOrder) : RechargeOrder :=
  match order.rechargeType with
  | .ISSUE => { order with state := .EXTERNAL_WAIT_ON_CHAIN }
  | .AIRDROP => { order with state := .INTERNAL_WAIT_ON_CHAIN }
  | .other _ => order

def states : RECHARGE_ORDER_STATE_ID → RechargeOrderState
  | .INIT => {}
  | .EXTERNAL_WAIT_ON_CHAIN => externalWaitOnChain env
  | .EXTERNAL_ON_CHAIN_FAIL => externalOnChainFail
  | .INTERNAL_WAIT_ON_CHAIN => internalWaitOnChain env
  | .INTERNAL_ON_CHAIN_FAIL => internalOnChainFail
  | .SUCCESS => success

def rechargeOrderMgr : OrderMgr RechargeOrder RECHARGE_ORDER_STATE_ID where
  looksBeforeRead := env.looksBeforeRead
  looksAfterRead := env.looksAfterRead
  states := states env
  getInitOrderOptions state := state = .INIT
  getPendingOrderOptions state := state = .EXTERNAL_WAIT_ON_CHAIN ∨ state = .INTERNAL_WAIT_ON_CHAIN
  setOrderPending := setOrderPending
  reconnects state := state = .INTERNAL_WAIT_ON_CHAIN
  onQueueInited := InternalWaitOnChain.onQueueInited
  retryExternalOnChain := retryExternalOnChain env
  retryInternalOnChain := retryInternalOnChain

/-- The system of one recharge order. -/
abbrev program : @Program (OrderStore RechargeOrder) (OrderOp RechargeOrder RECHARGE_ORDER_STATE_ID)
    OrderOp.Ans Err OrderEvt OrderChoice OrderProcess := (rechargeOrderMgr env).program env

end RechargeOrder

end CotServer
