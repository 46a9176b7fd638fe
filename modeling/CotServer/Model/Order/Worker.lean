import CotServer.Model.Redis.Account
import CotServer.Model.Service

/-!
# The order worker

The order worker process and what it talks to, for one order. The classes `OrderObj`, `OrderState`
and `OrderMgr` belong to the wallet SDK; this file states what the code relies on: callbacks and
messages go to the handler of the current state, a handler that is not overridden does nothing,
`changeState` sets the state and runs its hooks, and a new object enters the state of its row. A
state change is open until its hooks have ended; the SDK may put off a change that is asked for
while another one of the object is open, and results that depend on it ask for none to be open.
The handlers are in the files of the two kinds of order.
-/

namespace CotServer

open Async

inductive ChainSide where
  | external
  | internal
  deriving DecidableEq

/-- The wallet's report on a transaction of the order. -/
structure Report where
  side : ChainSide
  success : Bool
  txId : JsString
  deriving DecidableEq

inductive INTERNAL_CHAIN_RW_ACCOUNT_TYPE where
  | RECHARGEV2_ACCOUNT
  | AIRDROP_ACCOUNT
  deriving DecidableEq

def INTERNAL_CHAIN_RW_ACCOUNT_TYPE.toJs : INTERNAL_CHAIN_RW_ACCOUNT_TYPE → JsString
  | RECHARGEV2_ACCOUNT => js "RECHARGEV2_ACCOUNT"
  | AIRDROP_ACCOUNT => js "AIRDROP_ACCOUNT"

/-- Messages about the order: to-tx-start, try-transfer with its `params.accountType`, and
success. -/
inductive OrderMessage where
  | TO_TX_START
  | TRY_TRANSFER (accountType : Option INTERNAL_CHAIN_RW_ACCOUNT_TYPE)
  | SUCCESS
  deriving DecidableEq

/-- A row with a state. -/
class OrderEntity (E : Type) (S : outParam Type) where
  entityId : E → JsString
  state : E → S
  setState : S → E → E
  state_setState : ∀ st e, state (setState st e) = st
  entityId_setState : ∀ st e, entityId (setState st e) = entityId e

/-- The logic object of an order. The two retry fields are `retryToTxStamp` and `retryToTxNum` of a
redemption, `retryRechargeTxStamp` and `retryRechargeTxNum` of a recharge. -/
structure OrderObj (E : Type) where
  entity : E
  createFromTxObjSuccess : Bool := false
  retryTxStamp : Option Nat := none
  retryTxNum : Nat := 0
  deriving DecidableEq

/-- A reference to a logic object. -/
abbrev Ref := Nat

/-- A request to the order worker to make a logic object, and how often one had been taken out of
the map when it was sent. -/
structure IpcRequest where
  id : Nat
  removed : Nat
  deriving DecidableEq

/-- The row of the order, the memory of the order worker, its queues, and a history. -/
structure OrderStore (E : Type) where
  row : E
  /-- Every logic object made for the order so far; a reference is a position. -/
  heap : List (OrderObj E) := []
  /-- `__processingOrderObjMap`. -/
  processing : Option Ref := none
  /-- How often an object has been taken out of the map. -/
  removed : Nat := 0
  /-- The objects with an open state change. -/
  changing : List Ref := []
  messages : List OrderMessage := []
  internalOnChainQueueInited : Bool := false
  /-- Objects with a callback on `waitInternalOnChainQueueInited`. -/
  waiting : List Ref := []
  rwkeypairMap : JsString → Option JsString := fun _ => none
  externalkeypairMap : ExternalChainName → JsString → Option WalletAccount := fun _ _ => none
  config : RechargeObject := []
  now : Nat := 0
  ipcSent : Nat := 0
  ipcRequests : List IpcRequest := []
  /-- The requests that the order worker has answered with `true`. -/
  ipcReplies : List IpcRequest := []
  /-- Transactions that the wallet has set back to `INIT`. -/
  reset : List (ChainSide × JsString) := []
  /-- Transactions created by the order's outgoing create calls. -/
  created : List JsString := []
  /-- Transactions that the order's outgoing start call was made with. -/
  started : List JsString := []
  reports : List Report := []
  /-- The failures of outgoing transactions that an object has accepted. -/
  accepted : List (Ref × JsString) := []

namespace OrderStore

variable {E : Type}

/-- A key that has been set stays. -/
def setRWKeypair (s : OrderStore E) (accountType secret : JsString) : OrderStore E :=
  if (s.rwkeypairMap accountType).isSome then s
  else { s with rwkeypairMap := Function.update s.rwkeypairMap accountType (some secret) }

def setExternalKeypair (s : OrderStore E) (chainName : ExternalChainName) (assetType : JsString)
    (account : WalletAccount) : OrderStore E :=
  let assetMap := s.externalkeypairMap chainName
  if (assetMap assetType).isSome then s
  else
    let assetMap := Function.update assetMap assetType (some account)
    { s with externalkeypairMap := Function.update s.externalkeypairMap chainName assetMap }

/-- Takes the object out of the map, if there is one. -/
def unmap (s : OrderStore E) : OrderStore E :=
  { s with
    processing := none
    removed := if s.processing.isSome then s.removed + 1 else s.removed }

def openChange (ref : Ref) (s : OrderStore E) : OrderStore E :=
  { s with changing := ref :: s.changing }

def closeChange (ref : Ref) (s : OrderStore E) : OrderStore E :=
  { s with changing := s.changing.erase ref }

end OrderStore

structure IncreaseAssetReq where
  chainName : JsString
  secret : JsString
  recipientId : JsString
  increasedAssetPrealnum : Nat
  assetType : JsString
  applyAddress : JsString
  param : TransParam

structure InternalTransferReq where
  chainName : JsString
  secret : JsString
  recipientId : JsString
  assetType : JsString
  amount : Nat
  param : TransParam

structure ExternalTransferReq where
  chainName : ExternalChainName
  account : WalletAccount
  recipientId : JsString
  contractAddress : Option JsString
  amount : Nat
  param : TransParam

/-- Awaited calls. -/
inductive OrderOp (E S : Type) where
  | isDevTest
  | getConfigByKeyForce
  | save (entity : E)
  | saveState (state : S)
  | findOneByForce (state : Option S)
  | update (state newState : S)
  | publishOrderEvent (message : OrderMessage)
  | sleep (ms : Nat)
  | getExternalForgeInterval (chainName : ExternalChainName)
  | getTrans (side : ChainSide) (txId : JsString)
  | createExternalTransObj (chainName : Option ExternalChainName) (txId : JsString)
  | createInternalTransObj (chainName txId : JsString)
  | createInternalIncreaseAsset (req : IncreaseAssetReq)
  | createInternalTransfer (req : InternalTransferReq)
  | createExternalTransfer (req : ExternalTransferReq)
  | updateExternalTransState (chainName : Option ExternalChainName) (txId : JsString)
  | updateInternalTransState (chainName txId : JsString)
  | ipcReply (request : IpcRequest)

abbrev OrderOp.Ans {E S : Type} : OrderOp E S → Type
  | isDevTest | updateExternalTransState .. | updateInternalTransState ..
  | ipcReply _ => Bool
  | getConfigByKeyForce => RechargeObject
  | findOneByForce _ => E
  | update .. | getExternalForgeInterval _ => Nat
  | createInternalIncreaseAsset _ | createInternalTransfer _ | createExternalTransfer _ => JsString
  | save _ | saveState _ | publishOrderEvent _ | sleep _ | getTrans .. | createExternalTransObj ..
  | createInternalTransObj .. => Unit

inductive OrderChoice where
  | fails (e : Err)
  | done
  | amount (n : Nat)
  | text (s : JsString)
  | flag (b : Bool)

/-- The development switch of the kind of order, what the SDK does with a request for an object that
is there, and the constants of the SDK. The last two are the texts of `ExternalTransStateID.INIT`
and `InternalTransStateID.INIT`. -/
structure OrderEnv where
  devTest : Bool
  looksBeforeRead : Bool
  looksAfterRead : Bool
  INTERNAL_TRANS_RETRY_INVERVAL : Nat
  INTERNAL_TRANS_RETRY_MAX_NUM : Nat
  EXTERNAL_TRANS_RETRY_INVERVAL : Nat
  EXTERNAL_TRANS_RETRY_MAX_NUM : Nat
  EXTERNAL_TRANS_INIT : JsString
  INTERNAL_TRANS_INIT : JsString

section

variable {E S : Type} [OrderEntity E S] [DecidableEq S]

/-- The wallet's answer to an outgoing create call: a fresh transaction. -/
def OrderStore.create (s : OrderStore E) (txId : JsString) :
    Option (Except Err JsString × OrderStore E) :=
  if txId ∈ s.created ∨ txId = OrderEntity.entityId s.row then none
  else some (.ok txId, { s with created := txId :: s.created })

/-- The wallet's answer to a request to set a transaction back to `INIT`. -/
def OrderStore.resetTrans (s : OrderStore E) (side : ChainSide) (txId : JsString) (done : Bool) :
    Option (Except Err Bool × OrderStore E) :=
  some (.ok done, if done then { s with reset := (side, txId) :: s.reset } else s)

/-- The answer to a call. A call that throws has no effect. -/
def OrderOp.answer (env : OrderEnv) (op : OrderOp E S) (choice : OrderChoice) (s : OrderStore E) :
    Option (Except Err op.Ans × OrderStore E) :=
  match choice with
  | .fails e => some (.error e, s)
  | choice =>
    match op, choice with
    | isDevTest, .done => some (.ok env.devTest, s)
    | getConfigByKeyForce, .done => some (.ok s.config, s)
    | save entity, .done => some (.ok (), { s with row := entity })
    | saveState state, .done => some (.ok (), { s with row := OrderEntity.setState state s.row })
    | findOneByForce state, .done =>
      if state.all (OrderEntity.state s.row = ·) then some (.ok s.row, s)
      else some (.error (.error (js "couldn't find entity")), s)
    | update state newState, .done =>
      if OrderEntity.state s.row = state then
        some (.ok 1, { s with row := OrderEntity.setState newState s.row })
      else some (.ok 0, s)
    | publishOrderEvent message, .done =>
      some (.ok (), { s with messages := s.messages ++ [message] })
    | sleep _, .done => some (.ok (), s)
    | getExternalForgeInterval _, .amount n => some (.ok n, s)
    | getTrans .., .done => some (.ok (), s)
    | createExternalTransObj .., .done => some (.ok (), s)
    | createInternalTransObj .., .done => some (.ok (), s)
    | createInternalIncreaseAsset _, .text txId => s.create txId
    | createInternalTransfer _, .text txId => s.create txId
    | createExternalTransfer _, .text txId => s.create txId
    | updateExternalTransState _ txId, .flag b => s.resetTrans .external txId b
    | updateInternalTransState _ txId, .flag b => s.resetTrans .internal txId b
    | ipcReply request, .flag b =>
      if b ∧ request ∉ s.ipcReplies then none else some (.ok b, s)
    | _, _ => none

end

/-- An async function of the order worker, or of a retry in a web worker. -/
abbrev OrderAsync (E S : Type) := @Async (OrderStore E) (OrderOp E S) OrderOp.Ans Err

/-! ## Logic objects -/

section

variable {E S : Type} [OrderEntity E S] [DecidableEq S]

namespace OrderObj

def getObj (ref : Ref) : OrderAsync E S (OrderObj E) := do
  let s ← store
  match s.heap[ref]? with
  | some obj => return obj
  | none => throw (.error (js "no such object"))

def modifyObj (ref : Ref) (f : OrderObj E → OrderObj E) : OrderAsync E S Unit :=
  Async.update fun s => { s with heap := s.heap.modify ref f }

def curStateId (obj : OrderObj E) : S := OrderEntity.state obj.entity

def save (ref : Ref) : OrderAsync E S Unit := do
  let obj ← getObj ref
  call (OrderOp.save obj.entity)

def saveState (ref : Ref) : OrderAsync E S Unit := do
  let obj ← getObj ref
  call (OrderOp.saveState obj.curStateId)

/-- The failure of an outgoing transaction changes the object, and is on record. -/
def acceptFailure (ref : Ref) (txId : JsString) (f : OrderObj E → OrderObj E) :
    OrderAsync E S Unit :=
  Async.update fun s =>
    { s with heap := s.heap.modify ref f, accepted := (ref, txId) :: s.accepted }

/-- Saves the order and takes its object out of the map. -/
def close (ref : Ref) : OrderAsync E S Unit := do
  save ref
  Async.update fun s => if s.processing = some ref then s.unmap else s

end OrderObj

def publishOrderEvent (message : OrderMessage) : OrderAsync E S Unit :=
  call (OrderOp.publishOrderEvent message)

/-- The hooks and handlers of a state; those of the base class do nothing. -/
structure OrderState (E S : Type) where
  beforeEnterState : Ref → OrderAsync E S Unit := fun _ => pure ()
  onEnterState : Ref → OrderAsync E S Unit := fun _ => pure ()
  afterEnterState : Ref → OrderAsync E S Unit := fun _ => pure ()
  onTick : Ref → OrderAsync E S Unit := fun _ => pure ()
  onToTxStartCallback : Ref → OrderAsync E S Unit := fun _ => pure ()
  onInternalChainTryTransferCallback : Ref → INTERNAL_CHAIN_RW_ACCOUNT_TYPE → OrderAsync E S Unit :=
    fun _ _ => pure ()
  onExternalChainSuccessCallback : Ref → JsString → OrderAsync E S Unit := fun _ _ => pure ()
  onExternalChainFailCallback : Ref → JsString → OrderAsync E S Unit := fun _ _ => pure ()
  onInternalChainSuccessCallback : Ref → JsString → OrderAsync E S Unit := fun _ _ => pure ()
  onInternalChainFailCallback : Ref → JsString → OrderAsync E S Unit := fun _ _ => pure ()

namespace OrderState

def enter (state : OrderState E S) (ref : Ref) : OrderAsync E S Unit := do
  state.beforeEnterState ref
  state.onEnterState ref
  state.afterEnterState ref

/-- The hooks of a state change, which is open until they have ended. -/
def change (state : OrderState E S) (ref : Ref) : OrderAsync E S Unit := do
  Async.update (OrderStore.openChange ref)
  tryCatch (state.enter ref) fun e => do
    Async.update (OrderStore.closeChange ref)
    throw e
  Async.update (OrderStore.closeChange ref)

/-- The handler of a report on a transaction. -/
def onChainCallback (state : OrderState E S) (side : ChainSide) (success : Bool) :
    Ref → JsString → OrderAsync E S Unit :=
  match side, success with
  | .external, true => state.onExternalChainSuccessCallback
  | .external, false => state.onExternalChainFailCallback
  | .internal, true => state.onInternalChainSuccessCallback
  | .internal, false => state.onInternalChainFailCallback

end OrderState

/-- `orderObj.changeState(stateId, …)`, with the hooks of the new state, made at once: so does the
SDK where no other change of the object is open. -/
def changeState (state : OrderState E S) (ref : Ref) (stateId : S) : OrderAsync E S Unit := do
  OrderObj.modifyObj ref fun obj => { obj with entity := OrderEntity.setState stateId obj.entity }
  state.change ref

/-! ## The manager -/

/-- What a kind of order adds to the manager of the SDK. Whether `createOrderObjById` leaves an
object that is in the map, and when it looks for one, is up to the SDK. -/
structure OrderMgr (E S : Type) where
  looksBeforeRead : Bool
  looksAfterRead : Bool
  states : S → OrderState E S
  getInitOrderOptions : S → Bool
  getPendingOrderOptions : S → Bool
  setOrderPending : E → E
  /-- The states for which `processMqReConnect` publishes. -/
  reconnects : S → Bool
  /-- What waits for the queues to be initialised. -/
  onQueueInited : Ref → OrderAsync E S Unit := fun _ => pure ()
  retryExternalOnChain : OrderAsync E S Unit
  retryInternalOnChain : OrderAsync E S Unit

namespace OrderMgr

variable (mgr : OrderMgr E S)

/-- Hands the object in the map, if there is one, to a handler of its state. -/
def dispatch (handler : OrderState E S → Ref → OrderAsync E S Unit) : OrderAsync E S Unit := do
  let s ← store
  match s.processing with
  | none => pure ()
  | some ref =>
    let obj ← OrderObj.getObj ref
    handler (mgr.states obj.curStateId) ref

/-- The consumers of the temp queue. -/
def consume (message : OrderMessage) : OrderAsync E S Unit :=
  match message with
  | .TO_TX_START => mgr.dispatch fun state ref => state.onToTxStartCallback ref
  | .TRY_TRANSFER none => pure ()
  | .TRY_TRANSFER (some accountType) =>
    mgr.dispatch fun state ref => state.onInternalChainTryTransferCallback ref accountType
  | .SUCCESS => pure ()

/-- A message whose consumer throws is put back. -/
def deliver (message : OrderMessage) : OrderAsync E S Unit :=
  tryCatch (mgr.consume message) fun e => do
    Async.update fun s => { s with messages := s.messages ++ [message] }
    throw e

/-- The consumers of the on-chain events. -/
def onChainCallback (side : ChainSide) (success : Bool) (txId : JsString) :
    OrderAsync E S Unit := do
  call (OrderOp.getTrans side txId)
  mgr.dispatch fun state ref => state.onChainCallback side success ref txId

def processMqReConnect : OrderAsync E S Unit := do
  let s ← store
  match s.processing with
  | none => pure ()
  | some ref =>
    let obj ← OrderObj.getObj ref
    if mgr.reconnects obj.curStateId then
      publishOrderEvent .TO_TX_START

/-- A new object in the map. -/
def newObj (entity : E) (s : OrderStore E) : OrderStore E :=
  { s with heap := s.heap ++ [{ entity }], processing := some s.heap.length }

/-- A new object enters its state. -/
def enterNew (entity : E) (ref : Ref) : OrderAsync E S Unit :=
  (mgr.states (OrderEntity.state entity)).change ref

/-- The answer `true`. -/
def replyIpc (request : IpcRequest) : OrderAsync E S Unit :=
  Async.update fun s => { s with ipcReplies := request :: s.ipcReplies }

/-- The handler of `CREATE_…_ORDER_OBJ`, the SDK's `createOrderObjById`. -/
def createOrderObjById (request : IpcRequest) : OrderAsync E S Unit := do
  let s ← store
  if mgr.looksBeforeRead = true ∧ s.processing.isSome then
    replyIpc request
  else
    let entity : E ← call (OrderOp.findOneByForce none)
    let s ← store
    if mgr.looksAfterRead = true ∧ s.processing.isSome then
      replyIpc request
    else
      Async.update (newObj entity)
      mgr.enterNew entity s.heap.length
      replyIpc request

end OrderMgr

/-- `OrderHelper.createRechargeOrderObj` and `createRedemptionOrderObj`: the answer is only
logged. -/
def createOrderObj : OrderAsync E S Unit := do
  let s ← store
  let request : IpcRequest := { id := s.ipcSent, removed := s.removed }
  Async.update fun s =>
    { s with ipcSent := s.ipcSent + 1, ipcRequests := request :: s.ipcRequests }
  let _ : Bool ← call (OrderOp.ipcReply request)
  pure ()

/-! ## The program -/

inductive OrderEvt where
  /-- The manager takes up an order in its first state. -/
  | setOrderPending
  /-- The order worker stops and starts again; `load` is its `loadOrder`. -/
  | restart
  | load
  | tick
  | clock (ms : Nat)
  /-- A delivery; the message can stay in the queue to be delivered again. -/
  | deliver (message : OrderMessage) (again : Bool)
  | drop (message : OrderMessage)
  | onChain (report : Report)
  | mqReConnect
  | queueInited
  | queueWaited (k : Nat)
  | setRWKeypair (accountType secret : JsString)
  | setExternalKeypair (chainName : ExternalChainName) (assetType : JsString)
      (account : WalletAccount)
  | saveConfig (config : RechargeObject)
  | retryExternalOnChain
  | retryInternalOnChain
  | serveIpc (request : IpcRequest)

/-- The process a function runs in. -/
inductive OrderProcess where
  | order
  | web
  deriving DecidableEq

/-- The store and the suspended functions of an order. -/
abbrev OrderPool (E S : Type) := @Pool (OrderStore E) (OrderOp E S) OrderOp.Ans Err OrderProcess

/-- What an event does to the store, and what it starts. -/
def OrderMgr.event (mgr : OrderMgr E S) (e : OrderEvt) (s : OrderStore E) :
    Option (OrderStore E × Option (OrderProcess × OrderAsync E S Unit)) :=
  match e with
  | .setOrderPending =>
    if s.processing = none ∧ mgr.getInitOrderOptions (OrderEntity.state s.row) then
      let entity := mgr.setOrderPending s.row
      some (newObj entity s, some (.order, mgr.enterNew entity s.heap.length))
    else none
  | .restart =>
    some ({ s.unmap with
      changing := [], internalOnChainQueueInited := false, waiting := []
      rwkeypairMap := fun _ => none, externalkeypairMap := fun _ _ => none }, none)
  | .load =>
    if s.processing = none ∧ mgr.getPendingOrderOptions (OrderEntity.state s.row) then
      some (newObj s.row s, some (.order, mgr.enterNew s.row s.heap.length))
    else none
  | .tick => some (s, some (.order, mgr.dispatch fun state ref => state.onTick ref))
  | .clock ms => some ({ s with now := s.now + ms }, none)
  | .deliver message again =>
    if message ∈ s.messages then
      some ({ s with messages := if again then s.messages else s.messages.erase message },
        some (.order, mgr.deliver message))
    else none
  | .drop message => some ({ s with messages := s.messages.erase message }, none)
  | .onChain report =>
    some ({ s with reports := report :: s.reports },
      some (.order, mgr.onChainCallback report.side report.success report.txId))
  | .mqReConnect => some (s, some (.order, mgr.processMqReConnect))
  | .queueInited => some ({ s with internalOnChainQueueInited := true }, none)
  | .queueWaited k =>
    match s.waiting[k]? with
    | some ref =>
      if s.internalOnChainQueueInited then
        some ({ s with waiting := s.waiting.eraseIdx k }, some (.order, mgr.onQueueInited ref))
      else none
    | none => none
  | .setRWKeypair accountType secret =>
    some (s.setRWKeypair accountType secret, none)
  | .setExternalKeypair chainName assetType account =>
    some (s.setExternalKeypair chainName assetType account, none)
  | .saveConfig config => some ({ s with config }, none)
  | .retryExternalOnChain => some (s, some (.web, mgr.retryExternalOnChain))
  | .retryInternalOnChain => some (s, some (.web, mgr.retryInternalOnChain))
  | .serveIpc request =>
    if request ∈ s.ipcRequests then
      some ({ s with ipcRequests := s.ipcRequests.erase request },
        some (.order, mgr.createOrderObjById request))
    else none

/-- The system of one order. A restart ends what runs in the order worker. -/
def OrderMgr.program (mgr : OrderMgr E S) (env : OrderEnv) :
    @Program (OrderStore E) (OrderOp E S) OrderOp.Ans Err OrderEvt OrderChoice OrderProcess where
  event := mgr.event
  kills
    | .restart, .order => true
    | _, _ => false
  answer := OrderOp.answer env

end

end CotServer
