import CotServer.Theory.Positions
import CotServer.Verify.Order.Invariant

/-!
# What the functions of the order worker do to an order

`OrderMove` lists the changes that a function of the order worker or a retry makes, each with what it
has checked in the same segment or found out before. The two kinds of orders have the same moves;
that their functions make no others is shown in the modules of the two kinds.
-/

namespace CotServer

open Async Moves

/-- A kind of order: its two transfers, and the states around them. -/
structure OrderKind (E S : Type) [OrderEntity E S] extends Transfers E S where
  incomingWait : S
  incomingFail : S
  outgoingWait : S
  outgoingFail : S
  nodup : [incomingWait, incomingFail, outgoingWait, outgoingFail, success].Nodup
  /-- How many failures of outgoing transactions do not fail the order. -/
  retryMaxNum : OrderEnv → Nat
  /-- The messages on which an outgoing transaction is started. -/
  opens : OrderMessage → Bool
  /-- An order whose failures exceed the number starts no transaction any more. -/
  guarded : Bool

/-- Calls that start a transaction on the side. -/
def OrderOp.starts {E S : Type} (side : ChainSide) : OrderOp E S → Bool
  | createExternalTransObj .. => side = .external
  | createInternalTransObj .. => side = .internal
  | _ => false

/-- Calls that neither touch the order nor belong to an outgoing transaction. -/
def OrderOp.silent {E S : Type} (outgoing : ChainSide) : OrderOp E S → Bool
  | save _ | saveState _ | update .. | getConfigByKeyForce => false
  | op => !op.creates && !op.starts outgoing

/-- What a function has found out and is about to do. -/
inductive OrderAct (E : Type) where
  | plain
  /-- It has been started by a message. -/
  | delivered (message : OrderMessage)
  /-- It looks up the transaction of a report, and hands the report over. -/
  | arrived (report : Report)
  | report (side : ChainSide) (success : Bool) (txId : JsString)
  /-- It is in the development test. -/
  | tested
  /-- It creates an outgoing transaction for the object, has created it, and has put it there. -/
  | sending (ref : Ref)
  | holding (ref : Ref) (txId : JsString)
  | recorded (ref : Ref) (txId : JsString)
  | starting
  /-- The outgoing transaction of the object has failed. -/
  | failed (ref : Ref)
  /-- It takes the object out of the map. -/
  | closing (ref : Ref)
  /-- It serves a request for an object, and has read the row. -/
  | serving (request : IpcRequest)
  | loaded (request : IpcRequest) (entity : E)

structure OrderPos (E : Type) where
  act : OrderAct E
  /-- The request for which it has made an object. -/
  made : Option IpcRequest := none
  /-- The object whose state it has saved. -/
  entered : Option Ref := none

/-- The stores agree on all that the moves are about. -/
structure OrderStore.SameCore {E : Type} (s t : OrderStore E) : Prop where
  row : t.row = s.row
  heap : t.heap = s.heap
  processing : t.processing = s.processing
  removed : t.removed = s.removed
  ipcRequests : t.ipcRequests = s.ipcRequests
  ipcReplies : t.ipcReplies = s.ipcReplies
  created : t.created = s.created
  started : t.started = s.started
  reports : t.reports = s.reports
  accepted : t.accepted = s.accepted

theorem OrderStore.SameCore.openChange {E : Type} (s : OrderStore E) (ref : Ref) :
    s.SameCore (s.openChange ref) := ⟨rfl, rfl, rfl, rfl, rfl, rfl, rfl, rfl, rfl, rfl⟩

theorem OrderStore.SameCore.closeChange {E : Type} (s : OrderStore E) (ref : Ref) :
    s.SameCore (s.closeChange ref) := ⟨rfl, rfl, rfl, rfl, rfl, rfl, rfl, rfl, rfl, rfl⟩

/-- The object in the map. -/
def OrderStore.Live {E : Type} (s : OrderStore E) (ref : Ref) (obj : OrderObj E) : Prop :=
  s.processing = some ref ∧ s.heap[ref]? = some obj

def OrderStore.modify {E : Type} (s : OrderStore E) (ref : Ref) (f : OrderObj E → OrderObj E) :
    OrderStore E :=
  { s with heap := s.heap.modify ref f }

theorem OrderStore.Live.modify {E : Type} {s : OrderStore E} {ref : Ref} {obj : OrderObj E}
    {f : OrderObj E → OrderObj E} (h : s.Live ref obj) : (s.modify ref f).Live ref (f obj) := by
  refine ⟨h.1, ?_⟩
  simp [OrderStore.modify, h.2]

/-- A create call that was made for an object has returned. -/
def OrderPos.hold {E : Type} (x : OrderPos E) (txId : JsString) : OrderPos E :=
  match x.act with
  | .sending ref => { x with act := .holding ref txId }
  | _ => x

/-- The transaction of a report has been looked up. -/
def OrderPos.look {E : Type} (x : OrderPos E) (side : ChainSide) (txId : JsString) : OrderPos E :=
  match x.act with
  | .arrived report =>
    if report.side = side ∧ report.txId = txId then
      { x with act := .report side report.success txId }
    else x
  | _ => x

/-- What another call does not change. -/
def OrderAct.stays {E : Type} : OrderAct E → Bool
  | .plain | .arrived _ | .report _ true _ | .serving _ => true
  | _ => false

/-- Another call than the one that the function was about to make. -/
def OrderPos.aside {E : Type} (x : OrderPos E) : OrderPos E :=
  if x.act.stays then x else { x with act := .plain }

/-- The function can answer the request: it has made an object for it, or there is one in the
map. -/
def OrderPos.Served {E : Type} (x : OrderPos E) (s : OrderStore E) (request : IpcRequest) : Prop :=
  x.made = some request ∨
    (x.act = .serving request ∨ ∃ entity, x.act = .loaded request entity) ∧
      s.processing.isSome = true

/-- What an answer tells. -/
def OrderPos.receive {E S : Type} (x : OrderPos E) (op : OrderOp E S) (r : Except Err op.Ans) :
    OrderPos E :=
  match op, r with
  | .isDevTest, .ok true => { x with act := .tested }
  | .findOneByForce none, .ok entity =>
    match x.act with
    | .serving request => { x with act := .loaded request entity }
    | _ => x
  | .createInternalIncreaseAsset _, .ok txId | .createInternalTransfer _, .ok txId
  | .createExternalTransfer _, .ok txId => x.hold txId
  | .getTrans side txId, .ok _ => x.look side txId
  | _, _ => x

theorem OrderPos.hold_made {E : Type} {x : OrderPos E} {txId : JsString} :
    (x.hold txId).made = x.made := by
  unfold hold
  split <;> rfl

theorem OrderPos.look_made {E : Type} {x : OrderPos E} {side : ChainSide} {txId : JsString} :
    (x.look side txId).made = x.made := by
  unfold look
  split
  · split <;> rfl
  · rfl

theorem OrderPos.aside_made {E : Type} {x : OrderPos E} : x.aside.made = x.made := by
  unfold aside
  split <;> rfl

theorem OrderPos.aside_entered {E : Type} {x : OrderPos E} : x.aside.entered = x.entered := by
  unfold aside
  split <;> rfl

theorem OrderPos.aside_act {E : Type} {x : OrderPos E} :
    x.aside.act = x.act ∨ x.aside.act = .plain := by
  unfold aside
  split
  · exact .inl rfl
  · exact .inr rfl

theorem OrderPos.aside_arrived {E : Type} {x : OrderPos E} {report : Report}
    (hx : x.act = .arrived report) : x.aside = x := by
  simp [aside, hx, OrderAct.stays]

theorem OrderPos.aside_report {E : Type} {x : OrderPos E} {side : ChainSide} {txId : JsString}
    (hx : x.act = .report side true txId) : x.aside = x := by
  simp [aside, hx, OrderAct.stays]

theorem OrderPos.receive_made {E S : Type} {x : OrderPos E} {op : OrderOp E S}
    {r : Except Err op.Ans} : (x.receive op r).made = x.made := by
  unfold receive
  split
  case h_2 => split <;> rfl
  case h_3 | h_4 | h_5 => exact hold_made
  case h_6 => exact look_made
  all_goals rfl

theorem OrderPos.receive_entered {E S : Type} {x : OrderPos E} {op : OrderOp E S}
    {r : Except Err op.Ans} : (x.receive op r).entered = x.entered := by
  unfold receive
  split
  case h_2 => split <;> rfl
  case h_3 | h_4 | h_5 =>
    unfold hold
    split <;> rfl
  case h_6 =>
    unfold look
    split
    · split <;> rfl
    · rfl
  all_goals rfl

variable {E S : Type} [OrderEntity E S] (K : OrderKind E S)

/-- The objects agree on the two transfers. -/
structure OrderKind.SameLegs (obj obj' : OrderObj E) : Prop where
  entityId : OrderEntity.entityId obj'.entity = OrderEntity.entityId obj.entity
  state : OrderEntity.state obj'.entity = OrderEntity.state obj.entity
  inTx : K.inTx obj'.entity = K.inTx obj.entity
  outTx : K.outTx obj'.entity = K.outTx obj.entity
  retryTxNum : obj'.retryTxNum = obj.retryTxNum

/-- The object enters a state. -/
def OrderObj.setState (st : S) (obj : OrderObj E) : OrderObj E :=
  { obj with entity := OrderEntity.setState st obj.entity }

/-- The states in which an object is taken out of the map. -/
def OrderKind.Final (st : S) : Prop :=
  st = K.incomingFail ∨ st = K.outgoingFail ∨ st = K.success

/-- What a function that has put the object into a state is about to do. -/
def OrderKind.Enters (st : S) (ref : Ref) (act : OrderAct E) : Prop :=
  K.Final st ∧ act = .closing ref ∨ ¬ K.Final st ∧ act = .plain

variable {K} in
/-- An object that waits is not taken out of the map. -/
theorem OrderKind.not_final {st : S} (h : st = K.incomingWait ∨ st = K.outgoingWait) :
    ¬ K.Final st := by
  have hnodup := K.nodup
  simp only [List.nodup_cons, List.mem_cons, not_or] at hnodup
  rintro (hfinal | hfinal | hfinal) <;> rcases h with h | h <;> grind

variable {K} in
theorem OrderKind.Enters.closing {st : S} {ref : Ref} {act : OrderAct E} (h : K.Enters st ref act)
    (hfinal : K.Final st) : act = .closing ref := by
  rcases h with ⟨-, hact⟩ | ⟨hnot, -⟩
  · exact hact
  · exact absurd hfinal hnot

/-- The object gets an outgoing transaction. -/
def OrderKind.SetsOutTx (txId : JsString) (f : OrderObj E → OrderObj E) : Prop :=
  ∀ obj, (f obj).entity = K.setOutTx txId obj.entity ∧ (f obj).retryTxNum = obj.retryTxNum

/-- The object gets the placeholder, and counts a failure. -/
def OrderKind.Retries (f : OrderObj E → OrderObj E) : Prop :=
  ∀ obj, (f obj).entity = K.setOutTx (OrderEntity.entityId obj.entity) obj.entity ∧
    (f obj).retryTxNum = obj.retryTxNum + 1

/-- The function has been started by a message, and starts an outgoing transaction. -/
structure OrderKind.Opens (env : OrderEnv) (x : OrderPos E) (s : OrderStore E) (ref : Ref)
    (obj : OrderObj E) : Prop where
  delivered : ∃ message, x.act = .delivered message ∧ K.opens message = true
  live : s.Live ref obj
  state : OrderEntity.state obj.entity = K.outgoingWait
  guarded : K.guarded = true → obj.retryTxNum ≤ K.retryMaxNum env

/-- The changes within a segment. -/
inductive OrderMove (env : OrderEnv) :
    OrderPos E → OrderStore E → OrderPos E → OrderStore E → Prop
  | aux {x s t} (h : s.SameCore t) : OrderMove env x s x t
  | touch {x s} (ref : Ref) {f} (hf : ∀ obj, K.SameLegs obj (f obj)) :
    OrderMove env x s x (s.modify ref f)
  | close {x s} (ref : Ref) :
    OrderMove env x s x (if s.processing = some ref then s.unmap else s)
  | record {x s ref txId f} (hx : x.act = .holding ref txId) (hf : K.SetsOutTx txId f) :
    OrderMove env x s { x with act := .recorded ref txId } (s.modify ref f)
  | startOwn {x s ref txId} (hx : x.act = .recorded ref txId) :
    OrderMove env x s { x with act := .starting } { s with started := txId :: s.started }
  | startCurrent {x s ref obj} (hobj : s.heap[ref]? = some obj)
    (hx : K.Opens env x s ref obj ∨ ∃ txId, x.act = .recorded ref txId) :
    OrderMove env x s { x with act := .starting }
      { s with started := K.outTx obj.entity :: s.started }
  | reject {x s ref obj txId f} (hx : x.act = .report K.outgoing false txId)
    (hlive : s.Live ref obj) (hstate : OrderEntity.state obj.entity = K.outgoingWait)
    (htxId : txId = K.outTx obj.entity) (hf : K.Retries f) :
    OrderMove env x s { x with act := .failed ref }
      { s with heap := s.heap.modify ref f, accepted := (ref, txId) :: s.accepted }
  | giveUp {x s ref obj} (hx : x.act = .failed ref) (hobj : s.heap[ref]? = some obj)
    (hnum : K.retryMaxNum env < obj.retryTxNum) :
    OrderMove env x s { x with act := .closing ref }
      (s.modify ref (OrderObj.setState K.outgoingFail))
  | refuse {x s ref obj txId} (hx : x.act = .report K.incoming false txId)
    (hlive : s.Live ref obj) (hstate : OrderEntity.state obj.entity = K.incomingWait)
    (htxId : txId = K.inTx obj.entity) :
    OrderMove env x s { x with act := .closing ref }
      (s.modify ref (OrderObj.setState K.incomingFail))
  | confirm {x s ref obj txId} (hx : x.act = .report K.incoming true txId)
    (hlive : s.Live ref obj) (hstate : OrderEntity.state obj.entity = K.incomingWait)
    (htxId : txId = K.inTx obj.entity) :
    OrderMove env x s { x with act := .plain } (s.modify ref (OrderObj.setState K.outgoingWait))
  | pass {x s ref st act} (hx : x.act = .tested) (href : x.entered = some ref)
    (hst : st = K.outgoingWait ∨ st = K.success) (hact : K.Enters st ref act) :
    OrderMove env x s { x with act } (s.modify ref (OrderObj.setState st))
  | succeed {x s ref obj txId} (hx : x.act = .report K.outgoing true txId)
    (hobj : s.heap[ref]? = some obj) :
    OrderMove env x s { x with act := .closing ref } (s.modify ref (OrderObj.setState K.success))
  | send {x s} (id : Nat) :
    OrderMove env x s x
      { s with ipcSent := s.ipcSent + 1, ipcRequests := ⟨id, s.removed⟩ :: s.ipcRequests }
  | newObj {x s request entity act} (hx : x.act = .loaded request entity)
    (hact : K.Enters (OrderEntity.state entity) s.heap.length act) :
    OrderMove env x s { act, made := some request } (OrderMgr.newObj entity s)
  | reply {x s request} (hx : x.Served s request) :
    OrderMove env x s x { s with ipcReplies := request :: s.ipcReplies }

/-- The calls that a segment can end with. -/
inductive OrderWait (env : OrderEnv) :
    OrderPos E → OrderStore E → OrderOp E S → OrderPos E → Prop
  | silent {x s op} (hop : op.silent K.outgoing = true) : OrderWait env x s op x.aside
  | announce {x s ref message} (hx : x.act = .closing ref)
    (hstate : ∀ obj, s.heap[ref]? = some obj → OrderEntity.state obj.entity = K.success) :
    OrderWait env x s (.publishOrderEvent message) x
  | save {x s} {obj : OrderObj E} {ref : Ref} (hobj : s.heap[ref]? = some obj)
    (hx : x.act = .closing ref ∨ x.act = .failed ref ∨
      x.act = .recorded ref (K.outTx obj.entity)) :
    OrderWait env x s (.save obj.entity) x
  | saveLive {x s} {obj : OrderObj E} {ref : Ref} (hlive : s.Live ref obj)
    (hstate : OrderEntity.state obj.entity = K.outgoingWait) :
    OrderWait env x s (.save obj.entity) x.aside
  | saveState {x s} {obj : OrderObj E} {ref : Ref} (hobj : s.heap[ref]? = some obj)
    (hstate : OrderEntity.state obj.entity = K.incomingWait ∨
      OrderEntity.state obj.entity = K.outgoingWait) :
    OrderWait env x s (.saveState (OrderEntity.state obj.entity))
      { x.aside with entered := some ref }
  | retryIncoming {x s} : OrderWait env x s (.update K.incomingFail K.incomingWait) x.aside
  | retryOutgoing {x s} : OrderWait env x s (.update K.outgoingFail K.outgoingWait) x.aside
  | prepare {x s ref obj} (hx : K.Opens env x s ref obj) :
    OrderWait env x s .getConfigByKeyForce { x with act := .sending ref }
  | create {x s op ref obj} (hop : op.creates = true) (hx : K.Opens env x s ref obj) :
    OrderWait env x s op { x with act := .sending ref }
  | createPrepared {x s op ref} (hop : op.creates = true) (hx : x.act = .sending ref) :
    OrderWait env x s op x
  | start {x s op} (hop : op.starts K.outgoing = true) (hx : x.act = .starting) :
    OrderWait env x s op x

def orderMoves (env : OrderEnv) : Moves (OrderStore E) (OrderOp.Ans (E := E) (S := S)) Err
    (OrderPos E) where
  move := OrderMove K env
  wait := OrderWait K env
  receive := OrderPos.receive

abbrev OrderSpot (E S : Type) := Spot (OrderOp.Ans (E := E) (S := S)) Err (OrderPos E)

/-- The position at which an event starts a function. -/
def OrderEvt.start : OrderEvt → OrderPos E
  | .deliver message _ => { act := .delivered message }
  | .onChain report => { act := .arrived report }
  | .serveIpc request => { act := .serving request }
  | _ => { act := .plain }

end CotServer
