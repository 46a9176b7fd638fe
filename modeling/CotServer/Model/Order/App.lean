import CotServer.Model.Recharge.Order
import CotServer.Model.Redemption.Order
import CotServer.Theory.Component

/-!
# The order app

The order worker with all of its orders, of both kinds. What `OrderMgr.program` says of one order
happens here to each of them, over one memory; the reports of the wallet are handed to the manager
and the order that the link of their transaction names, and `processMqReConnect` goes through the
map of a manager.
-/

namespace CotServer

open Async

namespace ORDER_TYPE

abbrev Entity : ORDER_TYPE → Type
  | RECHARGE => RechargeOrder
  | REDEMPTION => RedemptionOrder

abbrev State : ORDER_TYPE → Type
  | RECHARGE => RECHARGE_ORDER_STATE_ID
  | REDEMPTION => REDEMPTION_ORDER_STATE_ID

instance : (type : ORDER_TYPE) → OrderEntity type.Entity type.State
  | RECHARGE => inferInstanceAs (OrderEntity RechargeOrder RECHARGE_ORDER_STATE_ID)
  | REDEMPTION => inferInstanceAs (OrderEntity RedemptionOrder REDEMPTION_ORDER_STATE_ID)

instance : (type : ORDER_TYPE) → DecidableEq type.State
  | RECHARGE => inferInstanceAs (DecidableEq RECHARGE_ORDER_STATE_ID)
  | REDEMPTION => inferInstanceAs (DecidableEq REDEMPTION_ORDER_STATE_ID)

/-- `__rechargeOrderMgr` and `__redemptionOrderMgr`. -/
def mgr (env : OrderEnv) : (type : ORDER_TYPE) → OrderMgr type.Entity type.State
  | RECHARGE => RechargeOrder.rechargeOrderMgr env
  | REDEMPTION => RedemptionOrder.redemptionOrderMgr env

end ORDER_TYPE

/-- An order of the worker; the `linkType` and `linkId` of a transaction name one. -/
structure OrderId where
  type : ORDER_TYPE
  id : JsString
  deriving DecidableEq

abbrev OrderId.Store (x : OrderId) : Type := OrderStore x.type.Entity

/-- What all orders of the worker have in common. -/
structure OrderMemory where
  internalOnChainQueueInited : Bool := false
  rwkeypairMap : JsString → Option JsString := fun _ => none
  externalkeypairMap : ExternalChainName → JsString → Option WalletAccount := fun _ _ => none
  config : RechargeObject := []
  now : Nat := 0

namespace OrderStore

variable {E : Type}

def memory (s : OrderStore E) : OrderMemory where
  internalOnChainQueueInited := s.internalOnChainQueueInited
  rwkeypairMap := s.rwkeypairMap
  externalkeypairMap := s.externalkeypairMap
  config := s.config
  now := s.now

def withMemory (m : OrderMemory) (s : OrderStore E) : OrderStore E :=
  { s with
    internalOnChainQueueInited := m.internalOnChainQueueInited
    rwkeypairMap := m.rwkeypairMap
    externalkeypairMap := m.externalkeypairMap
    config := m.config
    now := m.now }

@[simp] theorem memory_withMemory (m : OrderMemory) (s : OrderStore E) :
    (s.withMemory m).memory = m := rfl

@[simp] theorem withMemory_memory (s : OrderStore E) : s.withMemory s.memory = s := rfl

@[simp] theorem withMemory_withMemory (m m' : OrderMemory) (s : OrderStore E) :
    (s.withMemory m').withMemory m = s.withMemory m := rfl

end OrderStore

/-- The orders, the memory they have in common, and the keys of the two maps of logic objects in the
order of their insertion; the place of a deleted key stays. -/
structure AppStore where
  orders : (x : OrderId) → Option (OrderStore x.type.Entity) := fun _ => none
  memory : OrderMemory := {}
  processingKeys : ORDER_TYPE → List (Option JsString) := fun _ => []

namespace AppStore

/-- The keys of a map after `set` or `delete`. -/
def setKey (id : JsString) (has : Bool) (keys : List (Option JsString)) : List (Option JsString) :=
  if has then
    if some id ∈ keys then keys else keys ++ [some id]
  else keys.map fun key => if key = some id then none else key

/-- An order with the memory of the worker. -/
def getOrder (x : OrderId) (s : AppStore) : Option (OrderStore x.type.Entity) :=
  (s.orders x).map (·.withMemory s.memory)

def setOrder (x : OrderId) (u : OrderStore x.type.Entity) (s : AppStore) : AppStore :=
  if (s.orders x).isSome then
    { orders := Function.update s.orders x (some u)
      memory := u.memory
      processingKeys := Function.update s.processingKeys x.type
        (setKey x.id u.processing.isSome (s.processingKeys x.type)) }
  else s

theorem getOrder_setOrder {x : OrderId} {s : AppStore} {t u : OrderStore x.type.Entity}
    (h : s.getOrder x = some t) : (s.setOrder x u).getOrder x = some u := by
  obtain ⟨t', ht', -⟩ := Option.map_eq_some_iff.1 h
  simp [setOrder, getOrder, ht']

theorem setOrder_none {x : OrderId} {s : AppStore} {u : OrderStore x.type.Entity}
    (h : s.getOrder x = none) : s.setOrder x u = s := by
  simp [setOrder, Option.map_eq_none_iff.1 h]

/-- An order as a component of the worker. -/
def order (x : OrderId) : View AppStore x.Store where
  get := getOrder x
  set := setOrder x
  get_set := getOrder_setOrder
  set_none := setOrder_none

end AppStore

/-- The calls of the app itself: `getExternalTrans` and `getInternalTrans`. -/
inductive AppOp where
  | getTrans (side : ChainSide) (txId : JsString)

abbrev AppOp.Ans : AppOp → Type
  | getTrans .. => Unit

namespace OrderId

abbrev Op (x : OrderId) : Type := OrderOp x.type.Entity x.type.State

abbrev Ans (x : OrderId) : x.Op → Type := OrderOp.Ans

end OrderId

/-- An async function of the order worker, or of a retry of one of its orders. -/
abbrev AppAsync := @Async AppStore (AppOp ⊕ (Σ x : OrderId, x.Op))
  (FamilyAns AppOp.Ans OrderId.Ans) Err

/-- The environment of each manager, and the order that the wallet has linked a transaction to, if
any: the link is saved with the transaction and never changes. -/
structure AppEnv where
  orderEnv : ORDER_TYPE → OrderEnv
  linkOf : ChainSide → JsString → Option OrderId

namespace OrderApp

variable (env : AppEnv)

def mgr (type : ORDER_TYPE) : OrderMgr type.Entity type.State := type.mgr (env.orderEnv type)

/-- A function of one order. -/
def inOrder (x : OrderId) (p : OrderAsync x.type.Entity x.type.State Unit) : AppAsync Unit :=
  Async.via (i := x) (AppStore.order x) (.error (js "no such order")) p

/-- `onExternalChainCallback` and `onInternalChainCallback` of a manager. -/
def onChainCallback (x : OrderId) (report : Report) : AppAsync Unit := do
  let s ← store
  if (s.orders x).isSome then
    inOrder x do
      Async.update fun s => { s with reports := report :: s.reports }
      (mgr env x.type).dispatch fun state ref =>
        state.onChainCallback report.side report.success ref report.txId

/-- `__processExternalOnChain` and `__processInternalOnChain`. -/
def processOnChain (report : Report) : AppAsync Unit := do
  call (Sum.inl (AppOp.getTrans report.side report.txId))
  match env.linkOf report.side report.txId with
  | none => pure ()
  | some x => onChainCallback env x report

/-- `processMqReConnect`, from a place of the map on and for at most so many places. -/
def processMqReConnect (type : ORDER_TYPE) : Nat → Nat → AppAsync Unit
  | 0, _ => pure ()
  | places + 1, place => do
    let s ← store
    match (s.processingKeys type)[place]? with
    | none => pure ()
    | some none => processMqReConnect type places (place + 1)
    | some (some orderId) => do
      inOrder ⟨type, orderId⟩ (mgr env type).processMqReConnect
      processMqReConnect type places (place + 1)

end OrderApp

/-- Events that concern one order alone. -/
def OrderEvt.own : OrderEvt → Bool
  | setOrderPending | load | tick | deliver .. | drop _ | queueWaited _ | retryExternalOnChain
  | retryInternalOnChain | serveIpc _ => true
  | _ => false

inductive AppEvt where
  /-- A new row. -/
  | insert (x : OrderId) (row : x.type.Entity)
  | order (x : OrderId) (e : OrderEvt)
  | restart
  | clock (ms : Nat)
  | onChain (report : Report)
  /-- The loop of a manager; it ends after so many places at the latest. -/
  | mqReConnect (type : ORDER_TYPE) (places : Nat)
  | queueInited
  | setRWKeypair (accountType secret : JsString)
  | setExternalKeypair (chainName : ExternalChainName) (assetType : JsString)
      (account : WalletAccount)
  | saveConfig (config : RechargeObject)

namespace OrderMemory

/-- A key that has been set stays. -/
def setRWKeypair (m : OrderMemory) (accountType secret : JsString) : OrderMemory :=
  if (m.rwkeypairMap accountType).isSome then m
  else { m with rwkeypairMap := Function.update m.rwkeypairMap accountType (some secret) }

def setExternalKeypair (m : OrderMemory) (chainName : ExternalChainName) (assetType : JsString)
    (account : WalletAccount) : OrderMemory :=
  let assetMap := m.externalkeypairMap chainName
  if (assetMap assetType).isSome then m
  else
    let assetMap := Function.update assetMap assetType (some account)
    { m with externalkeypairMap := Function.update m.externalkeypairMap chainName assetMap }

end OrderMemory

namespace OrderApp

variable (env : AppEnv)

/-- What an event does to the store, and what it starts. -/
def event (e : AppEvt) (s : AppStore) : Option (AppStore × Option (OrderProcess × AppAsync Unit)) :=
  match e with
  | .insert x row =>
    if s.orders x = none ∧ OrderEntity.entityId row = x.id then
      some ({ s with orders := Function.update s.orders x (some { row }) }, none)
    else none
  | .order x e =>
    if e.own then do
      let u ← s.getOrder x
      let (t, next) ← (mgr env x.type).event e u
      some (s.setOrder x t, next.map fun (process, p) => (process, inOrder x p))
    else none
  | .restart =>
    some ({ s with
      orders := fun x => (s.orders x).map fun u => { u.unmap with changing := [], waiting := [] }
      memory := { s.memory with
        internalOnChainQueueInited := false
        rwkeypairMap := fun _ => none
        externalkeypairMap := fun _ _ => none }
      processingKeys := fun _ => [] }, none)
  | .clock ms => some ({ s with memory := { s.memory with now := s.memory.now + ms } }, none)
  | .onChain report => some (s, some (.order, processOnChain env report))
  | .mqReConnect type places => some (s, some (.order, processMqReConnect env type places 0))
  | .queueInited =>
    some ({ s with memory := { s.memory with internalOnChainQueueInited := true } }, none)
  | .setRWKeypair accountType secret =>
    some ({ s with memory := s.memory.setRWKeypair accountType secret }, none)
  | .setExternalKeypair chainName assetType account =>
    some ({ s with memory := s.memory.setExternalKeypair chainName assetType account }, none)
  | .saveConfig config => some ({ s with memory := { s.memory with config } }, none)

/-- The answer to a call. -/
def answer (op : AppOp ⊕ (Σ x : OrderId, x.Op)) (choice : OrderChoice) (s : AppStore) :
    Option (Except Err (FamilyAns AppOp.Ans OrderId.Ans op) × AppStore) :=
  match op, choice with
  | .inl _, .fails e => some (.error e, s)
  | .inl (.getTrans ..), .done => some (.ok (), s)
  | .inl _, _ => none
  | .inr ⟨x, op⟩, choice => do
    let u ← s.getOrder x
    let (r, t) ← op.answer (env.orderEnv x.type) choice u
    some (r, s.setOrder x t)

/-- The system of the order worker. -/
def program : @Program AppStore (AppOp ⊕ (Σ x : OrderId, x.Op)) (FamilyAns AppOp.Ans OrderId.Ans)
    Err AppEvt OrderChoice OrderProcess where
  event := event env
  kills
    | .restart, .order => true
    | _, _ => false
  answer := answer env

end OrderApp

end CotServer
