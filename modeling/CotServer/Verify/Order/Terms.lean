import CotServer.Model.Order.App
import CotServer.Theory.Contract
import CotServer.Verify.Order.Invariant

/-!
# The terms of an order

What an order asks for is fixed when it is created: its logic objects and its row agree on it for
ever, and every call about a transaction asks for it, under keys and a config that have been given
to the order worker.
-/

namespace CotServer

open Async Contract

/-- The keys and configs that the order worker has been given. -/
structure Settings where
  rwkeypair : JsString → JsString → Prop
  externalkeypair : ExternalChainName → JsString → WalletAccount → Prop
  config : RechargeObject → Prop

/-- The memory holds no others. -/
structure Settings.Backs (known : Settings) (m : OrderMemory) : Prop where
  rwkeypair : ∀ {accountType secret}, m.rwkeypairMap accountType = some secret →
    known.rwkeypair accountType secret
  externalkeypair : ∀ {chainName assetType account},
    m.externalkeypairMap chainName assetType = some account →
      known.externalkeypair chainName assetType account
  config : known.config m.config

/-- Calls that ask for nothing that belongs to the order. -/
def OrderOp.plain {E S : Type} : OrderOp E S → Bool
  | isDevTest | getConfigByKeyForce | saveState _ | findOneByForce _ | update .. | publishOrderEvent _
  | sleep _ | getExternalForgeInterval _ | getTrans .. | ipcReply _ => true
  | _ => false

/-- What the values of an order agree on, and what may be asked for it. -/
structure OrderTerms (E S : Type) [OrderEntity E S] where
  known : Settings
  Agrees : E → Prop
  Asked : OrderOp E S → Prop
  agrees_setState : ∀ {st e}, Agrees e → Agrees (OrderEntity.setState st e)
  asked_save : ∀ {e}, Asked (.save e) ↔ Agrees e
  asked_plain : ∀ {op}, op.plain = true → Asked op

variable {E S α β : Type} [OrderEntity E S]

namespace OrderTerms

/-- The terms as a contract of the functions of the order. -/
def contract (K : OrderTerms E S) : Contract (OrderStore E) (OrderOp.Ans (E := E) (S := S)) where
  Inv s := (∀ value ∈ s.values, K.Agrees value) ∧ K.known.Backs s.memory
  Asks := K.Asked
  Tells
    | .findOneByForce _, e => K.Agrees e
    | .getConfigByKeyForce, config => K.known.config config
    | _, _ => True

/-- The function keeps the terms wherever it starts. -/
abbrev Upholds (K : OrderTerms E S) (p : OrderAsync E S α) (Q : α → Prop := fun _ => True) : Prop :=
  K.contract.Upholds p Q

variable {K : OrderTerms E S} {s t : OrderStore E} {ref : Ref} {Q : α → Prop} {R : β → Prop}

theorem inv_same (hs : K.contract.Inv s) (hrow : t.row = s.row) (hheap : t.heap = s.heap)
    (hmemory : t.memory = s.memory) : K.contract.Inv t := by
  refine ⟨?_, hmemory ▸ hs.2⟩
  rw [OrderStore.values, hrow, hheap]
  exact hs.1

theorem Inv.object (hs : K.contract.Inv s) {obj : OrderObj E} (h : s.heap[ref]? = some obj) :
    K.Agrees obj.entity :=
  hs.1 _ (List.mem_cons_of_mem _ (List.mem_map_of_mem (List.mem_of_getElem? h)))

theorem inv_modify {f : OrderObj E → OrderObj E} (hs : K.contract.Inv s)
    (hf : ∀ obj, K.Agrees obj.entity → K.Agrees (f obj).entity) :
    K.contract.Inv { s with heap := s.heap.modify ref f } := by
  refine ⟨fun value hvalue => ?_, hs.2⟩
  rcases List.mem_cons.1 hvalue with rfl | hvalue
  · exact hs.1 _ List.mem_cons_self
  obtain ⟨obj', hobj', rfl⟩ := List.mem_map.1 hvalue
  obtain ⟨i, hi⟩ := List.mem_iff_getElem?.1 hobj'
  rw [List.getElem?_modify] at hi
  obtain ⟨obj, hobj, rfl⟩ := Option.map_eq_some_iff.1 hi
  split
  · exact hf obj (Inv.object hs hobj)
  · exact Inv.object hs hobj

theorem inv_row {e : E} (hs : K.contract.Inv s) (he : K.Agrees e) :
    K.contract.Inv { s with row := e } := by
  refine ⟨fun value hvalue => ?_, hs.2⟩
  rcases List.mem_cons.1 hvalue with rfl | hvalue
  · exact he
  · exact hs.1 value (List.mem_cons_of_mem _ hvalue)

theorem inv_newObj {e : E} (hs : K.contract.Inv s) (he : K.Agrees e) :
    K.contract.Inv (OrderMgr.newObj e s) := by
  refine ⟨fun value hvalue => ?_, hs.2⟩
  rcases List.mem_cons.1 hvalue with rfl | hvalue
  · exact hs.1 _ List.mem_cons_self
  obtain ⟨obj, hobj, rfl⟩ := List.mem_map.1 hvalue
  rcases List.mem_append.1 hobj with hold | hnew
  · exact hs.1 _ (List.mem_cons_of_mem _ (List.mem_map_of_mem hold))
  · cases List.mem_singleton.1 hnew
    exact he

/-- Answers keep the terms. -/
theorem answer [DecidableEq S] {env : OrderEnv} {op : OrderOp E S} {o : OrderChoice}
    {r : Except Err op.Ans} (hop : K.Asked op) (hs : K.contract.Inv s)
    (h : op.answer env o s = some (r, t)) :
    K.contract.Inv t ∧ ∀ a, r = .ok a → K.contract.Tells op a := by
  cases o with
  | fails e =>
    cases h
    exact ⟨hs, fun _ h => by cases h⟩
  | done =>
    cases op <;> simp only [OrderOp.answer, reduceCtorEq] at h
    case getConfigByKeyForce =>
      cases h
      refine ⟨hs, ?_⟩
      rintro _ ⟨⟩
      exact hs.2.config
    case save e =>
      cases h
      exact ⟨inv_row hs (K.asked_save.1 hop), fun _ _ => trivial⟩
    case saveState st =>
      cases h
      exact ⟨inv_row hs (K.agrees_setState (hs.1 _ List.mem_cons_self)), fun _ _ => trivial⟩
    case findOneByForce state =>
      split at h <;> cases h
      · refine ⟨hs, ?_⟩
        rintro _ ⟨⟩
        exact hs.1 _ List.mem_cons_self
      · exact ⟨hs, fun _ h => by cases h⟩
    case update state newState =>
      split at h <;> cases h
      · exact ⟨inv_row hs (K.agrees_setState (hs.1 _ List.mem_cons_self)), fun _ _ => trivial⟩
      · exact ⟨hs, fun _ _ => trivial⟩
    all_goals
      cases h
      exact ⟨inv_same hs rfl rfl rfl, fun _ _ => trivial⟩
  | _ =>
    cases op <;> simp only [OrderOp.answer, OrderStore.resetTrans, OrderStore.create,
      reduceCtorEq] at h
    all_goals
      (try split at h) <;> cases h <;>
        exact ⟨inv_same hs rfl rfl rfl, fun _ _ => trivial⟩

/-! ## Rules -/

namespace Upholds

theorem asked {op : OrderOp E S} (hop : K.Asked op) : K.Upholds (Async.call op) :=
  fun _ _ => holds_call hop fun _ _ => trivial

theorem plain {op : OrderOp E S} (hop : op.plain = true) : K.Upholds (Async.call op) :=
  .asked (K.asked_plain hop)

theorem findOneByForce {state : Option S} :
    K.Upholds (Async.call (OrderOp.findOneByForce state : OrderOp E S)) K.Agrees :=
  fun _ _ => holds_call (K.asked_plain rfl) fun _ h => h

theorem getConfigByKeyForce :
    K.Upholds (Async.call (OrderOp.getConfigByKeyForce : OrderOp E S)) K.known.config :=
  fun _ _ => holds_call (K.asked_plain rfl) fun _ h => h

/-! ### The logic object -/

theorem getObj : K.Upholds (OrderObj.getObj ref : OrderAsync E S (OrderObj E))
    fun obj => K.Agrees obj.entity := by
  refine .store fun s hs => ?_
  split
  · next obj hobj => exact .pure (Inv.object hs hobj)
  · exact .throw

theorem modifyObj {f : OrderObj E → OrderObj E}
    (hf : ∀ obj, K.Agrees obj.entity → K.Agrees (f obj).entity) :
    K.Upholds (OrderObj.modifyObj ref f : OrderAsync E S Unit) :=
  .update fun _ hs => inv_modify hs hf

theorem acceptFailure {txId : JsString} {f : OrderObj E → OrderObj E}
    (hf : ∀ obj, K.Agrees obj.entity → K.Agrees (f obj).entity) :
    K.Upholds (OrderObj.acceptFailure ref txId f : OrderAsync E S Unit) :=
  .update fun _ hs => inv_same (inv_modify hs hf) rfl rfl rfl

theorem publishOrderEvent (message : OrderMessage) :
    K.Upholds (publishOrderEvent message : OrderAsync E S Unit) := Upholds.plain rfl

theorem createOrderObj : K.Upholds (createOrderObj : OrderAsync E S Unit) := by
  refine .store fun s _ => .bind (.update fun t ht => inv_same ht rfl rfl rfl) fun _ _ => ?_
  exact .bind (Upholds.plain rfl) fun _ _ => .pure trivial

theorem save : K.Upholds (OrderObj.save ref : OrderAsync E S Unit) :=
  getObj.bind fun _ hobj => Upholds.asked (K.asked_save.2 hobj)

theorem close : K.Upholds (OrderObj.close ref : OrderAsync E S Unit) :=
  save.bind fun _ _ => .update fun s hs => by
    split
    · exact inv_same hs rfl rfl rfl
    · exact hs

theorem saveState : K.Upholds (OrderObj.saveState ref : OrderAsync E S Unit) :=
  getObj.bind fun _ _ => Upholds.plain rfl

end Upholds

/-! ## States and managers -/

/-- The hooks and handlers of a state keep the terms. -/
structure StateKeeps (K : OrderTerms E S) (state : OrderState E S) : Prop where
  beforeEnterState : ∀ ref, K.Upholds (state.beforeEnterState ref)
  onEnterState : ∀ ref, K.Upholds (state.onEnterState ref)
  afterEnterState : ∀ ref, K.Upholds (state.afterEnterState ref)
  onTick : ∀ ref, K.Upholds (state.onTick ref)
  onToTxStartCallback : ∀ ref, K.Upholds (state.onToTxStartCallback ref)
  onInternalChainTryTransferCallback : ∀ ref accountType,
    K.Upholds (state.onInternalChainTryTransferCallback ref accountType)
  onChainCallback : ∀ side success ref txId,
    K.Upholds (state.onChainCallback side success ref txId)

theorem stateKeeps_base : K.StateKeeps ({} : OrderState E S) where
  beforeEnterState _ := .pure trivial
  onEnterState _ := .pure trivial
  afterEnterState _ := .pure trivial
  onTick _ := .pure trivial
  onToTxStartCallback _ := .pure trivial
  onInternalChainTryTransferCallback _ _ := .pure trivial
  onChainCallback side success _ _ := by cases side <;> cases success <;> exact .pure trivial

/-- A state that closes the order. -/
theorem stateKeeps_final {onEnterState : Ref → OrderAsync E S Unit}
    (h : ∀ ref, K.Upholds (onEnterState ref)) :
    K.StateKeeps { onEnterState, afterEnterState := OrderObj.close } :=
  { stateKeeps_base with
    onEnterState := h
    afterEnterState := fun _ => .close }

theorem StateKeeps.enter {state : OrderState E S} (h : K.StateKeeps state) (ref : Ref) :
    K.Upholds (state.enter ref) :=
  (h.beforeEnterState ref).bind fun _ _ => (h.onEnterState ref).bind fun _ _ =>
    h.afterEnterState ref

theorem StateKeeps.change {state : OrderState E S} (h : K.StateKeeps state) (ref : Ref) :
    K.Upholds (state.change ref) := by
  have hclose : K.Upholds (Async.update (OrderStore.closeChange ref) : OrderAsync E S Unit) :=
    .update fun _ hs => inv_same hs rfl rfl rfl
  have hopen : K.Upholds (Async.update (OrderStore.openChange ref) : OrderAsync E S Unit) :=
    .update fun _ hs => inv_same hs rfl rfl rfl
  have hhooks := (h.enter ref).tryCatch fun e => hclose.bind fun _ _ => .throw (e := e)
  exact hopen.bind fun _ _ => hhooks.bind fun _ _ => hclose

theorem StateKeeps.changeState {state : OrderState E S} (h : K.StateKeeps state) (ref : Ref)
    (st : S) : K.Upholds (changeState state ref st) :=
  (Upholds.modifyObj fun _ hobj => K.agrees_setState hobj).bind fun _ _ => h.change ref

structure MgrKeeps (K : OrderTerms E S) (mgr : OrderMgr E S) : Prop where
  states : ∀ st, K.StateKeeps (mgr.states st)
  setOrderPending : ∀ {e}, K.Agrees e → K.Agrees (mgr.setOrderPending e)
  onQueueInited : ∀ ref, K.Upholds (mgr.onQueueInited ref)
  retryExternalOnChain : K.Upholds mgr.retryExternalOnChain
  retryInternalOnChain : K.Upholds mgr.retryInternalOnChain

variable {mgr : OrderMgr E S}

theorem keeps_dispatch {handler : OrderState E S → Ref → OrderAsync E S Unit}
    (h : ∀ st ref, K.Upholds (handler (mgr.states st) ref)) : K.Upholds (mgr.dispatch handler) := by
  refine .store fun s _ => ?_
  split
  · exact .pure trivial
  · exact Upholds.getObj.bind fun _ _ => h _ _

theorem keeps_processMqReConnect : K.Upholds mgr.processMqReConnect := by
  refine .store fun s _ => ?_
  split
  · exact .pure trivial
  · exact Upholds.getObj.bind fun _ _ => .ite (Upholds.publishOrderEvent _) (.pure trivial)

namespace MgrKeeps

theorem consume (h : K.MgrKeeps mgr) (message : OrderMessage) : K.Upholds (mgr.consume message) := by
  match message with
  | .TO_TX_START => exact keeps_dispatch fun st ref => (h.states st).onToTxStartCallback ref
  | .TRY_TRANSFER none => exact .pure trivial
  | .TRY_TRANSFER (some accountType) =>
    change K.Upholds (mgr.dispatch fun state ref =>
      state.onInternalChainTryTransferCallback ref accountType)
    exact keeps_dispatch fun st ref =>
      (h.states st).onInternalChainTryTransferCallback ref accountType
  | .SUCCESS => exact .pure trivial

theorem deliver (h : K.MgrKeeps mgr) (message : OrderMessage) : K.Upholds (mgr.deliver message) :=
  .tryCatch (h.consume message) fun _ =>
    .bind (.update fun _ hs => inv_same hs rfl rfl rfl) fun _ _ => .throw

theorem createOrderObjById (h : K.MgrKeeps mgr) (request : IpcRequest) :
    K.Upholds (mgr.createOrderObjById request) := by
  have hreply : K.Upholds (OrderMgr.replyIpc request : OrderAsync E S Unit) :=
    .update fun _ ht => inv_same ht rfl rfl rfl
  refine .store fun s _ => .ite hreply ?_
  refine Upholds.findOneByForce.bind fun entity hentity => .store fun s _ => .ite hreply ?_
  refine Upholds.bind (.update fun _ ht => inv_newObj ht hentity) fun _ _ => ?_
  exact ((h.states _).change _).bind fun _ _ => hreply

/-- An event of the order itself. -/
theorem event [DecidableEq S] (h : K.MgrKeeps mgr) {e : OrderEvt} (he : e.own = true) {next}
    (hs : K.contract.Inv s) (hev : mgr.event e s = some (t, next)) : K.contract.Inv t ∧
      ∀ process p, next = some (process, p) → K.contract.Keeps p t := by
  cases e <;> simp only [OrderMgr.event] at hev
  case setOrderPending =>
    split at hev <;> cases hev
    have ht := inv_newObj hs (h.setOrderPending (hs.1 _ List.mem_cons_self))
    refine ⟨ht, ?_⟩
    rintro _ _ ⟨⟩
    exact (h.states _).change _ _ ht
  case load =>
    split at hev <;> cases hev
    have ht := inv_newObj hs (hs.1 _ List.mem_cons_self)
    refine ⟨ht, ?_⟩
    rintro _ _ ⟨⟩
    exact (h.states _).change _ _ ht
  case tick =>
    cases hev
    refine ⟨hs, ?_⟩
    rintro _ _ ⟨⟩
    exact keeps_dispatch (fun st ref => (h.states st).onTick ref) s hs
  case deliver message again =>
    split at hev <;> cases hev
    have ht : K.contract.Inv { s with
        messages := if again then s.messages else s.messages.erase message } :=
      inv_same hs rfl rfl rfl
    refine ⟨ht, ?_⟩
    rintro _ _ ⟨⟩
    exact h.deliver message _ ht
  case drop message =>
    cases hev
    exact ⟨inv_same hs rfl rfl rfl, fun _ _ h => by cases h⟩
  case queueWaited k =>
    split at hev
    · split at hev <;> cases hev
      have ht : K.contract.Inv { s with waiting := s.waiting.eraseIdx k } :=
        inv_same hs rfl rfl rfl
      refine ⟨ht, ?_⟩
      rintro _ _ ⟨⟩
      exact h.onQueueInited _ _ ht
    · cases hev
  case retryExternalOnChain =>
    cases hev
    refine ⟨hs, ?_⟩
    rintro _ _ ⟨⟩
    exact h.retryExternalOnChain s hs
  case retryInternalOnChain =>
    cases hev
    refine ⟨hs, ?_⟩
    rintro _ _ ⟨⟩
    exact h.retryInternalOnChain s hs
  case serveIpc request =>
    split at hev <;> cases hev
    have ht : K.contract.Inv { s with ipcRequests := s.ipcRequests.erase request } :=
      inv_same hs rfl rfl rfl
    refine ⟨ht, ?_⟩
    rintro _ _ ⟨⟩
    exact h.createOrderObjById request _ ht
  all_goals cases he

end MgrKeeps

end OrderTerms

end CotServer
