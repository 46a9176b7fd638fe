import CotServer.Model.Order.App

/-!
# The memory of the order worker

The functions of an order write to the order only: what it has in common with the other orders of
the worker changes by events alone.
-/

namespace CotServer

open Async Moves

/-- From every store, the function leaves the memory as it is. -/
def Frames {E S α : Type} (p : OrderAsync E S α) : Prop :=
  ∀ s, (keeping fun s t : OrderStore E => t.memory = s.memory).Follows p Anyhow () s

namespace Frames

variable {E S α β : Type} {ref : Ref}

theorem pure (a : α) : Frames (Pure.pure a : OrderAsync E S α) := fun _ => trivial

theorem throw (e : Err) : Frames (throw e : OrderAsync E S α) := fun _ => trivial

theorem settle (r : Except Err α) : Frames (Async.settle r : OrderAsync E S α) :=
  fun _ => follows_settle.2 trivial

theorem throwIf (c : Prop) [Decidable c] (e : Err) :
    Frames (Async.throwIf c e : OrderAsync E S Unit) :=
  fun _ => follows_throwIf.2 ⟨fun _ => trivial, fun _ => trivial⟩

theorem bind {p : OrderAsync E S α} {f : α → OrderAsync E S β} (hp : Frames p)
    (hf : ∀ a, Frames (f a)) : Frames (p >>= f) := by
  refine fun s => follows_bind.2 ((hp s).mono fun r _ t _ => ?_)
  cases r with
  | ok a => exact hf a t
  | error e => trivial

theorem tryCatch {p : OrderAsync E S α} {f : Err → OrderAsync E S α} (hp : Frames p)
    (hf : ∀ e, Frames (f e)) : Frames (tryCatch p f) := by
  refine fun s => follows_tryCatch.2 ((hp s).mono fun r _ t _ => ?_)
  cases r with
  | ok a => trivial
  | error e => exact hf e t

theorem call (op : OrderOp E S) : Frames (Async.call op) :=
  fun _ => follows_call.2 ⟨(), trivial, fun _ _ => trivial⟩

theorem store : Frames (Async.store : OrderAsync E S (OrderStore E)) := fun _ => trivial

theorem update {f : OrderStore E → OrderStore E} (hf : ∀ s, (f s).memory = s.memory) :
    Frames (Async.update f : OrderAsync E S Unit) := fun s => follows_update.2 ⟨(), hf s, trivial⟩

theorem ite {c : Prop} [Decidable c] {p q : OrderAsync E S α} (hp : Frames p) (hq : Frames q) :
    Frames (if c then p else q) := by
  split
  · exact hp
  · exact hq

/-! ## The logic object -/

theorem getObj : Frames (OrderObj.getObj ref : OrderAsync E S (OrderObj E)) := by
  refine store.bind fun s => ?_
  split
  · exact pure _
  · exact throw _

theorem modifyObj {f : OrderObj E → OrderObj E} :
    Frames (OrderObj.modifyObj ref f : OrderAsync E S Unit) := update fun _ => rfl

theorem publishOrderEvent (message : OrderMessage) :
    Frames (publishOrderEvent message : OrderAsync E S Unit) := call _

theorem createOrderObj : Frames (createOrderObj : OrderAsync E S Unit) :=
  store.bind fun _ => (update fun _ => rfl).bind fun _ => (call _).bind fun _ => pure _

theorem save : Frames (OrderObj.save ref : OrderAsync E S Unit) := getObj.bind fun _ => call _

theorem close : Frames (OrderObj.close ref : OrderAsync E S Unit) :=
  save.bind fun _ => update fun s => by split <;> rfl

theorem saveState [OrderEntity E S] : Frames (OrderObj.saveState ref : OrderAsync E S Unit) :=
  getObj.bind fun _ => call _

end Frames

/-! ## States and managers -/

variable {E S : Type}

structure OrderState.Framed (state : OrderState E S) : Prop where
  beforeEnterState : ∀ ref, Frames (state.beforeEnterState ref)
  onEnterState : ∀ ref, Frames (state.onEnterState ref)
  afterEnterState : ∀ ref, Frames (state.afterEnterState ref)
  onTick : ∀ ref, Frames (state.onTick ref)
  onToTxStartCallback : ∀ ref, Frames (state.onToTxStartCallback ref)
  onInternalChainTryTransferCallback : ∀ ref accountType,
    Frames (state.onInternalChainTryTransferCallback ref accountType)
  onChainCallback : ∀ side success ref txId,
    Frames (state.onChainCallback side success ref txId)

theorem OrderState.framed_base : ({} : OrderState E S).Framed where
  beforeEnterState _ := .pure _
  onEnterState _ := .pure _
  afterEnterState _ := .pure _
  onTick _ := .pure _
  onToTxStartCallback _ := .pure _
  onInternalChainTryTransferCallback _ _ := .pure _
  onChainCallback side success _ _ := by cases side <;> cases success <;> exact .pure _

/-- A state that closes the order. -/
theorem OrderState.framed_final {onEnterState : Ref → OrderAsync E S Unit}
    (h : ∀ ref, Frames (onEnterState ref)) :
    OrderState.Framed { onEnterState, afterEnterState := OrderObj.close } :=
  { OrderState.framed_base with
    onEnterState := h
    afterEnterState := fun _ => .close }

theorem OrderState.Framed.enter {state : OrderState E S} (h : state.Framed) (ref : Ref) :
    Frames (state.enter ref) :=
  (h.beforeEnterState ref).bind fun _ => (h.onEnterState ref).bind fun _ => h.afterEnterState ref

theorem OrderState.Framed.change {state : OrderState E S} (h : state.Framed) (ref : Ref) :
    Frames (state.change ref) := by
  have hclose : Frames (Async.update (OrderStore.closeChange ref) : OrderAsync E S Unit) :=
    .update fun _ => rfl
  refine Frames.bind (.update fun _ => rfl) fun _ => Frames.bind ?_ fun _ => hclose
  exact .tryCatch (h.enter ref) fun e => hclose.bind fun _ => .throw e

variable [OrderEntity E S]

theorem OrderState.Framed.changeState {state : OrderState E S} (h : state.Framed) (ref : Ref)
    (st : S) : Frames (changeState state ref st) :=
  Frames.modifyObj.bind fun _ => h.change ref

structure OrderMgr.Framed (mgr : OrderMgr E S) : Prop where
  states : ∀ st, (mgr.states st).Framed
  onQueueInited : ∀ ref, Frames (mgr.onQueueInited ref)
  retryExternalOnChain : Frames mgr.retryExternalOnChain
  retryInternalOnChain : Frames mgr.retryInternalOnChain

namespace OrderMgr

variable {mgr : OrderMgr E S}

theorem frames_dispatch {handler : OrderState E S → Ref → OrderAsync E S Unit}
    (h : ∀ st ref, Frames (handler (mgr.states st) ref)) :
    Frames (mgr.dispatch handler) := by
  refine Frames.store.bind fun s => ?_
  split
  · exact .pure _
  · exact Frames.getObj.bind fun obj => h _ _

theorem frames_processMqReConnect : Frames mgr.processMqReConnect := by
  refine Frames.store.bind fun s => ?_
  split
  · exact .pure _
  · exact Frames.getObj.bind fun obj => .ite (.publishOrderEvent _) (.pure _)

namespace Framed

theorem consume (h : mgr.Framed) (message : OrderMessage) :
    Frames (mgr.consume message) := by
  match message with
  | .TO_TX_START => exact frames_dispatch fun st ref => (h.states st).onToTxStartCallback ref
  | .TRY_TRANSFER none => exact .pure _
  | .TRY_TRANSFER (some accountType) =>
    change Frames (mgr.dispatch fun state ref =>
      state.onInternalChainTryTransferCallback ref accountType)
    exact frames_dispatch fun st ref => (h.states st).onInternalChainTryTransferCallback ref accountType
  | .SUCCESS => exact .pure _

theorem deliver (h : mgr.Framed) (message : OrderMessage) :
    Frames (mgr.deliver message) :=
  .tryCatch (h.consume message) fun e =>
    Frames.bind (.update fun _ => rfl) fun _ => .throw e

theorem createOrderObjById (h : mgr.Framed) (request : IpcRequest) :
    Frames (mgr.createOrderObjById request) := by
  have hreply : Frames (replyIpc request : OrderAsync E S Unit) := .update fun _ => rfl
  refine Frames.store.bind fun s => .ite hreply ?_
  refine Frames.bind (.call _) fun entity => Frames.store.bind fun s => .ite hreply ?_
  refine Frames.bind (.update fun _ => rfl) fun _ => ?_
  exact ((h.states _).change _).bind fun _ => hreply

/-- What an event of one order starts. -/
theorem start [DecidableEq S] (h : mgr.Framed) {e : OrderEvt} (he : e.own = true)
    {s t : OrderStore E} {process : OrderProcess} {p : OrderAsync E S Unit}
    (hev : mgr.event e s = some (t, some (process, p))) : Frames p := by
  cases e <;> simp only [OrderMgr.event] at hev
  case setOrderPending | load =>
    split at hev <;> cases hev
    exact (h.states _).change _
  case tick =>
    cases hev
    exact frames_dispatch fun st ref => (h.states st).onTick ref
  case deliver message again =>
    split at hev <;> cases hev
    exact h.deliver message
  case queueWaited k =>
    split at hev
    · split at hev <;> cases hev
      exact h.onQueueInited _
    · cases hev
  case retryExternalOnChain =>
    cases hev
    exact h.retryExternalOnChain
  case retryInternalOnChain =>
    cases hev
    exact h.retryInternalOnChain
  case serveIpc request =>
    split at hev <;> cases hev
    exact h.createOrderObjById request
  case onChain | mqReConnect => cases he
  all_goals cases hev

end Framed

/-- An event of one order leaves the memory as it is. -/
theorem memory_event [DecidableEq S] {e : OrderEvt} {s t : OrderStore E} {next}
    (he : e.own = true) (h : mgr.event e s = some (t, next)) : t.memory = s.memory := by
  cases e <;> simp only [OrderMgr.event] at h
  case setOrderPending | load | deliver | serveIpc =>
    split at h <;> cases h
    rfl
  case queueWaited =>
    split at h
    · split at h <;> cases h
      rfl
    · cases h
  case tick | drop | retryExternalOnChain | retryInternalOnChain =>
    cases h
    rfl
  all_goals cases he

end OrderMgr

/-- So does an answer. -/
theorem OrderOp.memory_answer [DecidableEq S] {env : OrderEnv} {op : OrderOp E S} {o : OrderChoice}
    {s t : OrderStore E} {r : Except Err op.Ans} (h : op.answer env o s = some (r, t)) :
    t.memory = s.memory := by
  cases o with
  | fails e =>
    cases h
    rfl
  | _ =>
    cases op <;> simp only [OrderOp.answer, OrderStore.resetTrans, OrderStore.create,
      reduceCtorEq] at h
    all_goals (try split at h) <;> cases h <;> rfl

/-! ## Recharge orders -/

namespace RechargeOrder

open OrderObj OrderState

variable {env : OrderEnv} {ref : Ref}

namespace InternalWaitOnChain

theorem frames_onTick : Frames (onTick ref) := by
  refine Frames.getObj.bind fun obj => Frames.store.bind fun s => ?_
  exact .ite (Frames.modifyObj.bind fun _ => .publishOrderEvent _) (.pure _)

theorem frames_onQueueInited : Frames (onQueueInited ref) :=
  Frames.getObj.bind fun _ => .ite (.pure _) (.publishOrderEvent _)

theorem frames_onToTxStartCallback : Frames (onToTxStartCallback env ref) :=
  Frames.getObj.bind fun _ => .ite (.publishOrderEvent _) (.pure _)

theorem frames_forceGetRWKeypair (accountType : JsString) :
    Frames (forceGetRWKeypair accountType) := by
  refine Frames.store.bind fun s => ?_
  split
  · exact .pure _
  · exact .throw _

theorem frames_createTransfer (order : RechargeOrder) : Frames (createTransfer ref order) := by
  have hrecord : ∀ txId, Frames (do
      modifyObj ref (RechargeOrderObj.setRechargeTxId txId)
      save ref
      return txId : RechargeAsync JsString) :=
    fun txId => Frames.modifyObj.bind fun _ => Frames.save.bind fun _ => .pure _
  unfold createTransfer
  dsimp only
  split
  · refine Frames.bind (.call _) fun recharge => (frames_forceGetRWKeypair _).bind fun secret => ?_
    exact Frames.bind (.settle _) fun item => Frames.bind (.call _) hrecord
  · exact (frames_forceGetRWKeypair _).bind fun secret => Frames.bind (.call _) hrecord
  · exact .throw _

theorem frames_startTransfer : Frames (startTransfer env ref) := by
  refine Frames.getObj.bind fun obj => .ite (.pure _) (.ite (.pure _) ?_)
  have hstart : ∀ txId, Frames (createInternalTransObj obj.entity.internalChain txId) :=
    fun txId => Frames.bind (.update fun _ => rfl) fun _ => .call _
  refine .ite (Frames.bind (.tryCatch (frames_createTransfer _) fun e => ?_) hstart)
    (Frames.bind (.pure _) hstart)
  exact Frames.bind (.call _) fun _ => .throw e

theorem frames_verifyTxId (txId : JsString) : Frames (verifyTxId ref txId) :=
  Frames.getObj.bind fun _ => .throwIf _ _

theorem frames_onInternalChainSuccessCallback (txId : JsString) :
    Frames (onInternalChainSuccessCallback ref txId) := by
  refine (frames_verifyTxId _).bind fun _ => Frames.modifyObj.bind fun _ => ?_
  refine Frames.save.bind fun _ => Frames.getObj.bind fun obj => .ite ?_ (.pure _)
  exact (framed_final fun _ => .publishOrderEvent _).changeState _ _

theorem frames_retryToTx (txId : JsString) : Frames (retryToTx env ref txId) := by
  refine Frames.store.bind fun s => Frames.bind (.update fun _ => rfl) fun _ => ?_
  refine Frames.save.bind fun _ => Frames.getObj.bind fun obj => .ite (.pure _) ?_
  exact .ite ((framed_final fun _ => .pure _).changeState _ _) (.pure _)

theorem frames_onInternalChainFailCallback (txId : JsString) :
    Frames (onInternalChainFailCallback env ref txId) :=
  (frames_verifyTxId _).bind fun _ => Frames.getObj.bind fun _ =>
    .ite (frames_retryToTx _) (.pure _)

end InternalWaitOnChain

open InternalWaitOnChain in
theorem framed_internalWaitOnChain : (internalWaitOnChain env).Framed where
  beforeEnterState _ := .saveState
  onEnterState _ := .update fun _ => rfl
  afterEnterState _ := .pure _
  onTick _ := frames_onTick
  onToTxStartCallback _ := frames_onToTxStartCallback
  onInternalChainTryTransferCallback _ _ := frames_startTransfer
  onChainCallback side success _ txId := by
    cases side <;> cases success
    case external.false => exact .pure _
    case external.true => exact .pure _
    case internal.false => exact frames_onInternalChainFailCallback txId
    case internal.true => exact frames_onInternalChainSuccessCallback txId

namespace ExternalWaitOnChain

theorem frames_createExternalTransObj : Frames (createExternalTransObj ref) :=
  Frames.getObj.bind fun _ => Frames.bind (.call _) fun _ => .modifyObj

theorem frames_onEnterState : Frames (onEnterState env ref) :=
  Frames.bind (.call _) fun _ =>
    .ite (framed_internalWaitOnChain.changeState _ _) frames_createExternalTransObj

theorem frames_verifyTxId (txId : JsString) : Frames (verifyTxId ref txId) :=
  Frames.getObj.bind fun _ => .throwIf _ _

end ExternalWaitOnChain

open ExternalWaitOnChain in
theorem framed_externalWaitOnChain : (externalWaitOnChain env).Framed where
  beforeEnterState _ := .saveState
  onEnterState _ := frames_onEnterState
  afterEnterState _ := .pure _
  onTick _ := Frames.getObj.bind fun _ => .ite frames_createExternalTransObj (.pure _)
  onToTxStartCallback _ := .pure _
  onInternalChainTryTransferCallback _ _ := .pure _
  onChainCallback side success _ txId := by
    cases side <;> cases success
    case external.false =>
      exact (frames_verifyTxId txId).bind fun _ =>
        (framed_final fun _ => .pure _).changeState _ _
    case external.true =>
      exact (frames_verifyTxId txId).bind fun _ => framed_internalWaitOnChain.changeState _ _
    case internal.false => exact .pure _
    case internal.true => exact .pure _

theorem framed_rechargeOrderMgr : (rechargeOrderMgr env).Framed where
  states st := by
    cases st
    case INIT => exact framed_base
    case EXTERNAL_WAIT_ON_CHAIN => exact framed_externalWaitOnChain
    case EXTERNAL_ON_CHAIN_FAIL => exact framed_final fun _ => .pure _
    case INTERNAL_WAIT_ON_CHAIN => exact framed_internalWaitOnChain
    case INTERNAL_ON_CHAIN_FAIL => exact framed_final fun _ => .pure _
    case SUCCESS => exact framed_final fun _ => .publishOrderEvent _
  onQueueInited _ := InternalWaitOnChain.frames_onQueueInited
  retryExternalOnChain := by
    refine Frames.bind (.call _) fun order => Frames.bind (.call _) fun done => ?_
    refine Frames.bind (.throwIf _ _) fun _ => Frames.bind (.call _) fun affected => ?_
    exact Frames.bind (.throwIf _ _) fun _ => .createOrderObj
  retryInternalOnChain :=
    Frames.store.bind fun _ => Frames.bind (.call _) fun _ => Frames.bind (.throwIf _ _) fun _ =>
      .createOrderObj

end RechargeOrder

/-! ## Redemption orders -/

namespace RedemptionOrder

open OrderObj OrderState

variable {env : OrderEnv} {ref : Ref}

namespace ExternalWaitOnChain

theorem frames_onTick : Frames (onTick ref) := by
  refine Frames.getObj.bind fun obj => Frames.store.bind fun s => ?_
  exact .ite (Frames.modifyObj.bind fun _ => .publishOrderEvent _) (.pure _)

theorem framed_success : success.Framed := framed_final fun _ => .publishOrderEvent _

theorem frames_onEnterState : Frames (onEnterState ref) :=
  Frames.bind (.call _) fun _ => .ite (framed_success.changeState _ _) (.publishOrderEvent _)

theorem frames_forceGetExternalKeypair (chainName : ExternalChainName) (assetType : JsString) :
    Frames (forceGetExternalKeypair chainName assetType) := by
  refine Frames.store.bind fun s => ?_
  split
  · exact .pure _
  · exact .throw _

theorem frames_createTransfer (order : RedemptionOrder) : Frames (createTransfer ref order) :=
  (frames_forceGetExternalKeypair _ _).bind fun _ => Frames.bind (.call _) fun _ =>
    Frames.modifyObj.bind fun _ => .save

theorem frames_waitForRetry (order : RedemptionOrder) (e : Err) :
    Frames (waitForRetry env order e) := by
  refine .ite (Frames.bind (.call _) fun _ => ?_) ?_
  · exact Frames.bind (.call _) fun _ => .throw e
  · exact Frames.bind (.call _) fun _ => .throw e

theorem frames_startTransfer : Frames (startTransfer env ref) := by
  refine Frames.getObj.bind fun obj => ?_
  have hstart : Frames (do
      let obj' ← getObj ref
      createExternalTransObj obj.entity.walletChain obj'.entity.walletTxId
        : RedemptionAsync Unit) :=
    Frames.getObj.bind fun _ => Frames.bind (.update fun _ => rfl) fun _ => .call _
  dsimp only
  split
  · exact Frames.bind (.tryCatch (frames_createTransfer _) (frames_waitForRetry _)) fun _ => hstart
  · exact hstart

theorem frames_verifyTxId (txId : JsString) : Frames (verifyTxId ref txId) :=
  Frames.getObj.bind fun _ => .throwIf _ _

theorem frames_retryToTx (txId : JsString) : Frames (retryToTx env ref txId) := by
  refine Frames.store.bind fun s => Frames.bind (.update fun _ => rfl) fun _ => ?_
  refine Frames.save.bind fun _ => Frames.getObj.bind fun obj => .ite (.pure _) ?_
  exact (framed_final fun _ => .pure _).changeState _ _

end ExternalWaitOnChain

open ExternalWaitOnChain in
theorem framed_externalWaitOnChain : (externalWaitOnChain env).Framed where
  beforeEnterState _ := .saveState
  onEnterState _ := frames_onEnterState
  afterEnterState _ := .pure _
  onTick _ := frames_onTick
  onToTxStartCallback _ := frames_startTransfer
  onInternalChainTryTransferCallback _ _ := .pure _
  onChainCallback side success _ txId := by
    cases side <;> cases success
    case external.false => exact (frames_verifyTxId txId).bind fun _ => frames_retryToTx txId
    case external.true =>
      exact (frames_verifyTxId txId).bind fun _ => framed_success.changeState _ _
    case internal.false => exact .pure _
    case internal.true => exact .pure _

namespace InternalWaitOnChain

theorem frames_onEnterState : Frames (onEnterState ref) :=
  Frames.getObj.bind fun _ => Frames.bind (.call _) fun _ => .modifyObj

theorem frames_verifyTxId (txId : JsString) : Frames (verifyTxId ref txId) :=
  Frames.getObj.bind fun _ => .throwIf _ _

end InternalWaitOnChain

open InternalWaitOnChain in
theorem framed_internalWaitOnChain : (internalWaitOnChain env).Framed where
  beforeEnterState _ := .saveState
  onEnterState _ := frames_onEnterState
  afterEnterState _ := .pure _
  onTick _ := Frames.getObj.bind fun _ =>
    .ite (Frames.bind (.call _) fun _ => .modifyObj) (.pure _)
  onToTxStartCallback _ := .pure _
  onInternalChainTryTransferCallback _ _ := .pure _
  onChainCallback side success _ txId := by
    cases side <;> cases success
    case external.false => exact .pure _
    case external.true => exact .pure _
    case internal.false =>
      exact (frames_verifyTxId txId).bind fun _ =>
        (framed_final fun _ => .pure _).changeState _ _
    case internal.true =>
      exact (frames_verifyTxId txId).bind fun _ => framed_externalWaitOnChain.changeState _ _

theorem framed_redemptionOrderMgr : (redemptionOrderMgr env).Framed where
  states st := by
    cases st
    case INIT => exact framed_base
    case INTERNAL_WAIT_ON_CHAIN => exact framed_internalWaitOnChain
    case INTERNAL_ON_CHAIN_FAIL => exact framed_final fun _ => .pure _
    case EXTERNAL_WAIT_ON_CHAIN => exact framed_externalWaitOnChain
    case EXTERNAL_ON_CHAIN_FAIL => exact framed_final fun _ => .pure _
    case SUCCESS => exact framed_final fun _ => .publishOrderEvent _
  onQueueInited _ := .pure _
  retryExternalOnChain :=
    Frames.store.bind fun _ => Frames.bind (.call _) fun _ => Frames.bind (.throwIf _ _) fun _ =>
      .createOrderObj
  retryInternalOnChain := by
    refine Frames.bind (.call _) fun order => Frames.bind (.call _) fun done => ?_
    refine Frames.bind (.throwIf _ _) fun _ => Frames.bind (.call _) fun affected => ?_
    exact Frames.bind (.throwIf _ _) fun _ => .createOrderObj

end RedemptionOrder

end CotServer
