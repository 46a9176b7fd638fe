import CotServer.Model.Order.Worker

/-!
# Redemption orders in the order worker

The states of a redemption order, its manager, and the two retries of `RedemptionService`. States
come before the states that change into them.
-/

namespace CotServer

instance : OrderEntity RedemptionOrder REDEMPTION_ORDER_STATE_ID where
  entityId order := order.entityId
  state order := order.state
  setState state order := { order with state }
  state_setState _ _ := rfl
  entityId_setState _ _ := rfl

/-- An order as `redemptionV2` creates it: the outgoing transaction has the id of the order until
there is one. -/
structure RedemptionOrder.New (order : RedemptionOrder) : Prop where
  state : order.state = .INIT
  walletTxId : order.walletTxId = order.entityId

abbrev RedemptionOrderObj := OrderObj RedemptionOrder

abbrev RedemptionAsync := OrderAsync RedemptionOrder REDEMPTION_ORDER_STATE_ID

abbrev RedemptionOrderState := OrderState RedemptionOrder REDEMPTION_ORDER_STATE_ID

/-- The setter of `walletTxId`. -/
def RedemptionOrderObj.setWalletTxId (txId : JsString) (obj : RedemptionOrderObj) :
    RedemptionOrderObj :=
  { obj with entity := { obj.entity with walletTxId := txId } }

namespace RedemptionOrder

open Async OrderObj RedemptionOrderObj

variable (env : OrderEnv)

/-! ## Final states -/

def externalOnChainFail : RedemptionOrderState where
  afterEnterState := close

def internalOnChainFail : RedemptionOrderState where
  afterEnterState := close

def success : RedemptionOrderState where
  onEnterState _ := publishOrderEvent .SUCCESS
  afterEnterState := close

/-! ## `ExternalWaitOnChain_RedemptionOrderState` -/

namespace ExternalWaitOnChain

def onTick (ref : Ref) : RedemptionAsync Unit := do
  let obj ← getObj ref
  let s ← store
  if obj.retryTxStamp.any fun stamp => stamp ≠ 0 ∧ s.now ≥ stamp then
    modifyObj ref fun obj => { obj with retryTxStamp := none }
    publishOrderEvent .TO_TX_START

def isRedemptionDevTest : RedemptionAsync Bool := call OrderOp.isDevTest

def onEnterState (ref : Ref) : RedemptionAsync Unit := do
  if ← isRedemptionDevTest then
    changeState success ref .SUCCESS
  else
    publishOrderEvent .TO_TX_START

/-- `__globalValueRedisRepository.forceGetExternalKeypair`. -/
def forceGetExternalKeypair (chainName : ExternalChainName) (assetType : JsString) :
    RedemptionAsync WalletAccount := do
  let s ← store
  match s.externalkeypairMap chainName assetType with
  | some keypair => return keypair
  | none =>
    throw (.error (js "[" ++ chainName.toJs ++ js "] " ++ assetType ++ js " is not inject"))

def createExternalTransfer (req : ExternalTransferReq) : RedemptionAsync JsString :=
  call (OrderOp.createExternalTransfer req)

/-- The `try` block of `__startTransfer`; `order` holds the values read at its beginning. -/
def createTransfer (ref : Ref) (order : RedemptionOrder) : RedemptionAsync Unit := do
  let platformAccount ← forceGetExternalKeypair order.walletChain order.walletAsset
  let txId ← createExternalTransfer
    { chainName := order.walletChain
      account := platformAccount
      recipientId := order.walletAddress
      contractAddress := order.contractAddress
      amount := order.walletAmount
      param := { linkType := .REDEMPTION_ORDER, linkId := order.entityId } }
  modifyObj ref (setWalletTxId txId)
  save ref

/-- The `catch` block of `__startTransfer`. -/
def waitForRetry (order : RedemptionOrder) (e : Err) : RedemptionAsync Unit := do
  if order.walletChain ≠ .TRON then
    let forgeInterval : Nat ← call (OrderOp.getExternalForgeInterval order.walletChain)
    call (OrderOp.sleep (forgeInterval * 1000))
  else
    call (OrderOp.sleep env.EXTERNAL_TRANS_RETRY_INVERVAL)
  throw e

/-- `walletServerSdk.createExternalTransObj`, on record as a start. -/
def createExternalTransObj (chainName : ExternalChainName) (txId : JsString) :
    RedemptionAsync Unit := do
  update fun s => { s with started := txId :: s.started }
  call (OrderOp.createExternalTransObj (some chainName) txId)

/-- `__startTransfer`. -/
def startTransfer (ref : Ref) : RedemptionAsync Unit := do
  let obj ← getObj ref
  let order := obj.entity
  if order.walletTxId = order.entityId then
    tryCatch (createTransfer ref order) (waitForRetry env order)
  let obj ← getObj ref
  createExternalTransObj order.walletChain obj.entity.walletTxId

def verifyTxId (ref : Ref) (txId : JsString) : RedemptionAsync Unit := do
  let obj ← getObj ref
  throwIf (txId ≠ obj.entity.walletTxId)
    (.error (js "txId:" ++ txId ++ js " !== orderObj.txHash:" ++ obj.entity.walletTxId))

def onExternalChainSuccessCallback (ref : Ref) (txId : JsString) : RedemptionAsync Unit := do
  verifyTxId ref txId
  changeState success ref .SUCCESS

/-- `__retryToTx`; `txId` is the transaction that has failed. -/
def retryToTx (ref : Ref) (txId : JsString) : RedemptionAsync Unit := do
  let s ← store
  acceptFailure ref txId fun obj =>
    { setWalletTxId obj.entity.entityId obj with
      retryTxStamp := some (s.now + env.EXTERNAL_TRANS_RETRY_INVERVAL)
      retryTxNum := obj.retryTxNum + 1 }
  save ref
  let obj ← getObj ref
  if obj.retryTxNum ≤ env.EXTERNAL_TRANS_RETRY_MAX_NUM then
    return
  changeState externalOnChainFail ref .EXTERNAL_ON_CHAIN_FAIL

def onExternalChainFailCallback (ref : Ref) (txId : JsString) : RedemptionAsync Unit := do
  verifyTxId ref txId
  retryToTx env ref txId

end ExternalWaitOnChain

open ExternalWaitOnChain in
def externalWaitOnChain : RedemptionOrderState where
  beforeEnterState := saveState
  onTick := onTick
  onEnterState := onEnterState
  onToTxStartCallback := startTransfer env
  onExternalChainSuccessCallback := onExternalChainSuccessCallback
  onExternalChainFailCallback := onExternalChainFailCallback env

/-! ## `InternalWaitOnChain_RedemptionOrderState` -/

namespace InternalWaitOnChain

def onEnterState (ref : Ref) : RedemptionAsync Unit := do
  let obj ← getObj ref
  call (OrderOp.createInternalTransObj obj.entity.internalChain obj.entity.redemptionTxId)
  modifyObj ref fun obj => { obj with createFromTxObjSuccess := true }

def onTick (ref : Ref) : RedemptionAsync Unit := do
  let obj ← getObj ref
  if !obj.createFromTxObjSuccess then
    call (OrderOp.createInternalTransObj obj.entity.internalChain obj.entity.redemptionTxId)
    modifyObj ref fun obj => { obj with createFromTxObjSuccess := true }

def verifyTxId (ref : Ref) (txId : JsString) : RedemptionAsync Unit := do
  let obj ← getObj ref
  throwIf (txId ≠ obj.entity.redemptionTxId)
    (.error (js "orderObj.redemptionTxId:" ++ obj.entity.redemptionTxId))

def onInternalChainSuccessCallback (ref : Ref) (txId : JsString) : RedemptionAsync Unit := do
  verifyTxId ref txId
  changeState (externalWaitOnChain env) ref .EXTERNAL_WAIT_ON_CHAIN

def onInternalChainFailCallback (ref : Ref) (txId : JsString) : RedemptionAsync Unit := do
  verifyTxId ref txId
  changeState internalOnChainFail ref .INTERNAL_ON_CHAIN_FAIL

end InternalWaitOnChain

open InternalWaitOnChain in
def internalWaitOnChain : RedemptionOrderState where
  beforeEnterState := saveState
  onTick := onTick
  onEnterState := onEnterState
  onInternalChainSuccessCallback := onInternalChainSuccessCallback env
  onInternalChainFailCallback := onInternalChainFailCallback

/-! ## Retries and the manager -/

def findOneByForce (state : REDEMPTION_ORDER_STATE_ID) : RedemptionAsync RedemptionOrder :=
  call (OrderOp.findOneByForce (some state))

def updateState (state newState : REDEMPTION_ORDER_STATE_ID) : RedemptionAsync Nat :=
  call (OrderOp.update state newState)

def retryInternalOnChain : RedemptionAsync Unit := do
  let order ← findOneByForce .INTERNAL_ON_CHAIN_FAIL
  let updateTransSuccess : Bool ←
    call (OrderOp.updateInternalTransState order.internalChain order.redemptionTxId)
  throwIf (updateTransSuccess = false)
    (.error (js "<redemption> update [" ++ order.internalChain ++ js "] txId:" ++
      order.redemptionTxId ++ js " to state:" ++ env.INTERNAL_TRANS_INIT ++ js " fail"))
  let affected ← updateState .INTERNAL_ON_CHAIN_FAIL .INTERNAL_WAIT_ON_CHAIN
  throwIf (affected = 0) (.error
    (js "<redemption> update orderId:" ++ order.entityId ++ js " state:201 to state:2 fail"))
  createOrderObj

def retryExternalOnChain : RedemptionAsync Unit := do
  let s ← store
  let affected ← updateState .EXTERNAL_ON_CHAIN_FAIL .EXTERNAL_WAIT_ON_CHAIN
  throwIf (affected = 0) (.error
    (js "<redemption> update orderId:" ++ s.row.entityId ++ js " state:301 to state:3 fail"))
  createOrderObj

def setOrderPending (order : RedemptionOrder) : RedemptionOrder :=
  { order with state := .INTERNAL_WAIT_ON_CHAIN }

def states : REDEMPTION_ORDER_STATE_ID → RedemptionOrderState
  | .INIT => {}
  | .INTERNAL_WAIT_ON_CHAIN => internalWaitOnChain env
  | .INTERNAL_ON_CHAIN_FAIL => internalOnChainFail
  | .EXTERNAL_WAIT_ON_CHAIN => externalWaitOnChain env
  | .EXTERNAL_ON_CHAIN_FAIL => externalOnChainFail
  | .SUCCESS => success

def redemptionOrderMgr : OrderMgr RedemptionOrder REDEMPTION_ORDER_STATE_ID where
  looksBeforeRead := env.looksBeforeRead
  looksAfterRead := env.looksAfterRead
  states := states env
  getInitOrderOptions state := state = .INIT
  getPendingOrderOptions state :=
    state = .INTERNAL_WAIT_ON_CHAIN ∨ state = .EXTERNAL_WAIT_ON_CHAIN
  setOrderPending := setOrderPending
  reconnects state := state = .EXTERNAL_WAIT_ON_CHAIN
  retryExternalOnChain := retryExternalOnChain
  retryInternalOnChain := retryInternalOnChain env

/-- The system of one redemption order. -/
abbrev program : @Program (OrderStore RedemptionOrder)
    (OrderOp RedemptionOrder REDEMPTION_ORDER_STATE_ID) OrderOp.Ans Err OrderEvt OrderChoice
    OrderProcess := (redemptionOrderMgr env).program env

end RedemptionOrder

end CotServer
