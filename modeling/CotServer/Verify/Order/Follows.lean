import CotServer.Verify.Order.Moves

/-!
# Functions that follow the moves of an order

One rule for each awaited call and each function of the logic object, and the reduction of the
events of a manager to the hooks and handlers of its states.
-/

namespace CotServer

open Async Moves

variable {E S : Type} [OrderEntity E S] {K : OrderKind E S} {env : OrderEnv}
  {x y : OrderPos E} {s : OrderStore E}

namespace OrderKind

variable (K env) in
/-- The function follows the moves of the order, from the position `x`. -/
def Safe {α : Type} (p : OrderAsync E S α) (x : OrderPos E) (s : OrderStore E) : Prop :=
  (orderMoves K env).Follows p (fun _ y _ => y.made = x.made) x s

theorem Safe.pure {α : Type} {a : α} : K.Safe env (Pure.pure a) x s := follows_pure.2 rfl

theorem Safe.throw {α : Type} {e : Err} : K.Safe env (throw e : OrderAsync E S α) x s :=
  follows_throw.2 rfl

/-- A function after which any position goes on. -/
theorem Safe.bind {α β : Type} {p : OrderAsync E S α} {f : α → OrderAsync E S β}
    (hp : K.Safe env p x s) (hf : ∀ a y t, K.Safe env (f a) y t) : K.Safe env (p >>= f) x s := by
  refine follows_bind.2 (Follows.mono hp fun r y t hy => ?_)
  cases r with
  | error e => exact hy
  | ok a => exact (hf a y t).mono fun _ _ _ h => h.trans hy

/-- A function that ends at a certain position. -/
theorem Safe.seq {α β : Type} {p : OrderAsync E S α} {f : α → OrderAsync E S β}
    {Q : Except Err α → OrderPos E → OrderStore E → Prop}
    (hp : (orderMoves K env).Follows p Q x s) (herror : ∀ e y t, Q (.error e) y t → y.made = x.made)
    (hf : ∀ a y t, Q (.ok a) y t → y.made = x.made ∧ K.Safe env (f a) y t) :
    K.Safe env (p >>= f) x s := by
  refine follows_bind.2 (hp.mono fun r y t hy => ?_)
  cases r with
  | error e => exact herror e y t hy
  | ok a =>
    obtain ⟨hmade, hsafe⟩ := hf a y t hy
    exact hsafe.mono fun _ _ _ h => h.trans hmade

theorem Safe.throwIf {c : Prop} [Decidable c] {e : Err} : K.Safe env (Async.throwIf c e) x s :=
  follows_throwIf.2 ⟨fun _ => rfl, fun _ => rfl⟩

theorem Safe.store {k : OrderStore E → OrderAsync E S β} (h : K.Safe env (k s) x s) :
    K.Safe env (Async.store >>= k) x s := follows_bind.2 h

theorem Safe.update {f : OrderStore E → OrderStore E} (h : OrderMove K env x s y (f s))
    (hy : y.made = x.made) : K.Safe env (Async.update f) x s := follows_update.2 ⟨y, h, hy⟩

/-- An awaited call. -/
theorem Safe.call {op : OrderOp E S} (h : OrderWait K env x s op y) (hy : y.made = x.made) :
    K.Safe env (Async.call op) x s :=
  follows_call.2 ⟨y, h, fun _ _ => OrderPos.receive_made.trans hy⟩

theorem safe_silent {op : OrderOp E S} (hop : op.silent K.outgoing = true) :
    K.Safe env (call op) x s := .call (.silent hop) OrderPos.aside_made

/-- The answer of `isDevTest`. -/
theorem follows_isDevTest : (orderMoves K env).Follows
    (call (OrderOp.isDevTest : OrderOp E S)) (fun r y _ => y.made = x.made ∧
      (r = .ok true → y.act = .tested ∧ y.entered = x.entered)) x s := by
  refine follows_call.2 ⟨x.aside, .silent rfl, fun r t => ?_⟩
  refine ⟨OrderPos.receive_made.trans OrderPos.aside_made, ?_⟩
  rintro rfl
  exact ⟨rfl, OrderPos.aside_entered⟩

/-! ## The logic object -/

theorem safe_getObj {ref : Ref} {k : OrderObj E → OrderAsync E S β}
    (h : ∀ obj, s.heap[ref]? = some obj → K.Safe env (k obj) x s) :
    K.Safe env (OrderObj.getObj ref >>= k) x s := by
  refine follows_bind.2 (follows_bind.2 ?_)
  simp only [follows_store]
  split
  · next obj hobj => exact h obj hobj
  · exact rfl

/-- A report goes on when it is about the transaction of the object. -/
theorem safe_verifyTxId {ref : Ref} {txId : JsString} {tx : OrderObj E → JsString}
    {e : OrderObj E → Err} {k : Unit → OrderAsync E S β}
    (h : ∀ obj, s.heap[ref]? = some obj → txId = tx obj → K.Safe env (k ()) x s) :
    K.Safe env ((do
      let obj ← OrderObj.getObj ref
      Async.throwIf (txId ≠ tx obj) (e obj)) >>= k) x s := by
  refine Safe.seq (Q := fun r y t => y = x ∧ (r = .ok () → t = s ∧ ∃ obj, s.heap[ref]? = some obj ∧
    txId = tx obj)) ?_ (fun _ _ _ hy => hy.1 ▸ rfl) fun _ y t hy => ?_
  · refine follows_bind.2 (follows_bind.2 (follows_store.2 ?_))
    dsimp only
    split
    · next obj hobj =>
      refine follows_throwIf.2 ⟨fun _ => ⟨rfl, fun h => (nomatch h)⟩, fun htx => ⟨rfl, fun _ => ?_⟩⟩
      exact ⟨rfl, obj, hobj, not_not.1 htx⟩
    · exact ⟨rfl, fun h => (nomatch h)⟩
  · obtain ⟨rfl, hok⟩ := hy
    obtain ⟨rfl, obj, hobj, htx⟩ := hok rfl
    exact ⟨rfl, h obj hobj htx⟩

/-- The object has got an outgoing transaction. -/
theorem outTx_modify {ref : Ref} {txId : JsString} {f : OrderObj E → OrderObj E}
    {obj : OrderObj E} (hf : K.SetsOutTx txId f) (hobj : (s.modify ref f).heap[ref]? = some obj) :
    K.outTx obj.entity = txId := by
  rw [OrderStore.modify, List.getElem?_modify] at hobj
  obtain ⟨obj, -, rfl⟩ := Option.map_eq_some_iff.1 hobj
  simp [(hf obj).1]

/-- A save leaves the position. -/
theorem follows_save {ref : Ref} (hx : ∀ obj, s.heap[ref]? = some obj → x.act = .closing ref ∨
    x.act = .failed ref ∨ x.act = .recorded ref (K.outTx obj.entity)) :
    (orderMoves K env).Follows (OrderObj.save ref : OrderAsync E S Unit) (fun _ y _ => y = x) x
      s := by
  refine follows_bind.2 (follows_bind.2 ?_)
  simp only [follows_store]
  split
  · next obj hobj => exact follows_call.2 ⟨x, .save hobj (hx obj hobj), fun _ _ => rfl⟩
  · exact rfl

theorem follows_saveLive {ref : Ref} {obj : OrderObj E} (hlive : s.Live ref obj)
    (hstate : OrderEntity.state obj.entity = K.outgoingWait) (hx : x.aside = x) :
    (orderMoves K env).Follows (OrderObj.save ref : OrderAsync E S Unit) (fun _ y _ => y = x) x
      s := by
  refine follows_bind.2 (follows_bind.2 ?_)
  simp only [follows_store]
  split
  · next obj' hobj =>
    obtain rfl : obj = obj' := Option.some.inj (hlive.2.symm.trans hobj)
    exact follows_call.2 ⟨x.aside, .saveLive hlive hstate, fun _ _ => hx⟩
  · exact rfl

theorem follows_saveState {ref : Ref} (hstate : ∀ obj, s.heap[ref]? = some obj →
    OrderEntity.state obj.entity = K.incomingWait ∨
      OrderEntity.state obj.entity = K.outgoingWait) : (orderMoves K env).Follows
    (OrderObj.saveState ref : OrderAsync E S Unit) (fun r y _ => y.made = x.made ∧
      (r = .ok () → y.entered = some ref)) x s := by
  refine follows_bind.2 (follows_bind.2 ?_)
  simp only [follows_store]
  split
  · next obj hobj =>
    exact follows_call.2 ⟨_, .saveState hobj (hstate obj hobj), fun _ _ =>
      ⟨OrderPos.aside_made, fun _ => rfl⟩⟩
  · exact ⟨rfl, fun h => by cases h⟩

theorem safe_saveState {ref : Ref} (hstate : ∀ obj, s.heap[ref]? = some obj →
    OrderEntity.state obj.entity = K.incomingWait ∨
      OrderEntity.state obj.entity = K.outgoingWait) :
    K.Safe env (S := S) (OrderObj.saveState ref) x s :=
  (follows_saveState hstate).mono fun _ _ _ hy => hy.1

theorem safe_close {ref : Ref} (hx : x.act = .closing ref) :
    K.Safe env (S := S) (OrderObj.close ref) x s :=
  Safe.seq (follows_save fun _ _ => .inl hx) (fun _ _ _ hy => hy ▸ rfl) fun _ _ _ hy =>
    ⟨hy ▸ rfl, .update (.close ref) rfl⟩

theorem safe_publish {message : OrderMessage} :
    K.Safe env (S := S) (publishOrderEvent message) x s := safe_silent rfl

theorem safe_touch {ref : Ref} {f : OrderObj E → OrderObj E} (hf : ∀ obj, K.SameLegs obj (f obj)) :
    K.Safe env (S := S) (OrderObj.modifyObj ref f) x s := .update (.touch ref hf) rfl

theorem safe_aux {f : OrderStore E → OrderStore E} (hf : ∀ s : OrderStore E, s.SameCore (f s)) :
    K.Safe env (S := S) (Async.update f) x s := .update (.aux (hf s)) rfl

/-! ## States -/

variable (K env) in
/-- The hooks and handlers of a state follow the moves. -/
structure StateSafe (st : S) (state : OrderState E S) : Prop where
  enter : ∀ ref x s, (∀ obj, s.heap[ref]? = some obj → OrderEntity.state obj.entity = st) →
    (K.Final st → x.act = .closing ref) → K.Safe env (state.enter ref) x s
  onTick : ∀ ref x s, K.Safe env (state.onTick ref) x s
  onToTxStartCallback : ∀ ref obj x s, s.Live ref obj → obj.curStateId = st →
    x.act = .delivered .TO_TX_START → K.Safe env (state.onToTxStartCallback ref) x s
  onInternalChainTryTransferCallback : ∀ ref obj accountType x s, s.Live ref obj →
    obj.curStateId = st → x.act = .delivered (.TRY_TRANSFER (some accountType)) →
    K.Safe env (state.onInternalChainTryTransferCallback ref accountType) x s
  onChainCallback : ∀ side success ref obj txId x s, s.Live ref obj → obj.curStateId = st →
    x.act = .report side success txId → K.Safe env (state.onChainCallback side success ref txId) x s

theorem safe_closeChange {ref : Ref} :
    K.Safe env (S := S) (Async.update (OrderStore.closeChange ref)) x s :=
  safe_aux fun s => .closeChange s ref

theorem StateSafe.change {state : OrderState E S} {ref : Ref} {st : S}
    (h : K.StateSafe env st state)
    (hstate : ∀ obj, s.heap[ref]? = some obj → OrderEntity.state obj.entity = st)
    (hfinal : K.Final st → x.act = .closing ref) : K.Safe env (state.change ref) x s := by
  refine Safe.seq (Q := fun _ y t => y = x ∧ t.heap = s.heap)
    (follows_update.2 ⟨x, .aux (.openChange s ref), rfl, rfl⟩)
    (fun _ _ _ hy => hy.1 ▸ rfl) fun _ y t hy => ?_
  obtain ⟨rfl, hheap⟩ := hy
  refine ⟨rfl, Safe.bind (follows_tryCatch.2 ?_) fun _ _ _ => safe_closeChange⟩
  refine (h.enter ref y t (fun obj hobj => hstate obj (hheap ▸ hobj)) hfinal).mono fun r z u hz => ?_
  cases r with
  | ok a => exact hz
  | error e =>
    have hclose : K.Safe env (S := S) (do
        Async.update (OrderStore.closeChange ref)
        throw e : OrderAsync E S Unit) z u := safe_closeChange.bind fun _ _ _ => .throw
    exact hclose.mono fun _ _ _ h => h.trans hz

/-- A state is entered once the object has it. -/
theorem safe_changeState {state : OrderState E S} {ref : Ref} {st : S} {act : OrderAct E}
    (hmove : OrderMove K env x s { x with act } (s.modify ref (OrderObj.setState st)))
    (hstate : K.StateSafe env st state) (hfinal : K.Final st → act = .closing ref) :
    K.Safe env (changeState state ref st) x s := by
  refine Safe.seq (Q := fun _ y t => y = { x with act } ∧ t = s.modify ref (OrderObj.setState st))
    (follows_update.2 ⟨_, hmove, rfl, rfl⟩) (fun _ _ _ hy => hy.1 ▸ rfl) fun _ y t hy => ?_
  obtain ⟨rfl, rfl⟩ := hy
  refine ⟨rfl, hstate.change (fun obj hobj => ?_) hfinal⟩
  rw [OrderStore.modify, List.getElem?_modify] at hobj
  obtain ⟨obj, -, rfl⟩ := Option.map_eq_some_iff.1 hobj
  simp [OrderObj.setState]

/-- A state that overrides nothing. -/
theorem stateSafe_base (st : S) : K.StateSafe env st {} where
  enter _ _ _ _ _ := Safe.pure.bind fun _ _ _ => Safe.pure.bind fun _ _ _ => .pure
  onTick _ _ _ := .pure
  onToTxStartCallback _ _ _ _ _ _ _ := .pure
  onInternalChainTryTransferCallback _ _ _ _ _ _ _ _ := .pure
  onChainCallback side success _ _ _ _ _ _ _ _ := by cases side <;> cases success <;> exact .pure

/-- A state that closes the order. -/
theorem stateSafe_final {st : S} {onEnterState : Ref → OrderAsync E S Unit} (hst : K.Final st)
    (henter : ∀ ref x s, (∀ obj, s.heap[ref]? = some obj → OrderEntity.state obj.entity = st) →
      x.act = .closing ref →
      (orderMoves K env).Follows (onEnterState ref) (fun _ y _ => y = x) x s) :
    K.StateSafe env st { onEnterState, afterEnterState := OrderObj.close } :=
  { stateSafe_base st with
    enter := fun ref x s hstate hx => by
      have hx := hx hst
      refine Safe.seq (follows_pure.2 ⟨rfl, rfl⟩ : (orderMoves K env).Follows _
        (fun _ y t => y = x ∧ t = s) x s) (fun _ _ _ hy => hy.1 ▸ rfl) fun _ y t hy => ?_
      obtain ⟨rfl, rfl⟩ := hy
      refine ⟨rfl, Safe.seq (henter ref y t hstate hx) (fun _ _ _ hz => hz ▸ rfl) fun _ _ _ hz => ?_⟩
      exact ⟨hz ▸ rfl, safe_close (hz ▸ hx)⟩ }

/-- The state of success is announced. -/
theorem stateSafe_announces : K.StateSafe env K.success
    { onEnterState := fun _ => publishOrderEvent .SUCCESS, afterEnterState := OrderObj.close } :=
  stateSafe_final (.inr (.inr rfl)) fun _ x _ hstate hx =>
    follows_call.2 ⟨x, .announce hx hstate, fun _ _ => rfl⟩

/-! ## Events -/

variable (K env) in
/-- What a kind of order adds to the manager follows the moves. -/
structure MgrSafe (mgr : OrderMgr E S) : Prop where
  states : ∀ st, K.StateSafe env st (mgr.states st)
  setOrderPending : ∀ e, OrderEntity.entityId (mgr.setOrderPending e) = OrderEntity.entityId e ∧
    K.outTx (mgr.setOrderPending e) = K.outTx e
  /-- Objects that the manager makes on its own are not to be taken out of the map. -/
  init : ∀ e, mgr.getInitOrderOptions (OrderEntity.state e) = true →
    ¬ K.Final (OrderEntity.state (mgr.setOrderPending e))
  pending : ∀ st, mgr.getPendingOrderOptions st = true → ¬ K.Final st
  onQueueInited : ∀ ref x s, K.Safe env (mgr.onQueueInited ref) x s
  retryExternalOnChain : ∀ x s, K.Safe env mgr.retryExternalOnChain x s
  retryInternalOnChain : ∀ x s, K.Safe env mgr.retryInternalOnChain x s

variable {mgr : OrderMgr E S}

/-- The object in the map is handed to a handler of its state. -/
theorem safe_dispatch {handler : OrderState E S → Ref → OrderAsync E S Unit}
    (hhandler : ∀ ref obj, s.Live ref obj →
      K.Safe env (handler (mgr.states obj.curStateId) ref) x s) :
    K.Safe env (mgr.dispatch handler) x s := by
  refine .store ?_
  split
  · exact .pure
  · next ref href => exact safe_getObj fun obj hobj => hhandler ref obj ⟨href, hobj⟩

theorem MgrSafe.consume (h : K.MgrSafe env mgr) {message : OrderMessage}
    (hx : x.act = .delivered message) : K.Safe env (mgr.consume message) x s := by
  match message with
  | .TO_TX_START =>
    exact safe_dispatch fun ref obj hlive =>
      (h.states _).onToTxStartCallback ref obj x s hlive rfl hx
  | .TRY_TRANSFER none => exact .pure
  | .TRY_TRANSFER (some accountType) =>
    change K.Safe env (mgr.dispatch fun state ref =>
      state.onInternalChainTryTransferCallback ref accountType) x s
    exact safe_dispatch fun ref obj hlive =>
      (h.states _).onInternalChainTryTransferCallback ref obj accountType x s hlive rfl hx
  | .SUCCESS => exact .pure

theorem MgrSafe.deliver (h : K.MgrSafe env mgr) {message : OrderMessage}
    (hx : x.act = .delivered message) : K.Safe env (mgr.deliver message) x s := by
  refine follows_tryCatch.2 ((h.consume hx).mono fun r y t hy => ?_)
  cases r with
  | ok a => exact hy
  | error e =>
    have hput : K.Safe env (S := S) (do
        Async.update fun s : OrderStore E => { s with messages := s.messages ++ [message] }
        throw e : OrderAsync E S Unit) y t := by
      refine Safe.bind (safe_aux fun _ => ?_) fun _ _ _ => .throw
      exact ⟨rfl, rfl, rfl, rfl, rfl, rfl, rfl, rfl, rfl, rfl⟩
    exact hput.mono fun _ _ _ h => h.trans hy

theorem MgrSafe.onChainCallback (h : K.MgrSafe env mgr) {side : ChainSide} {success : Bool}
    {txId : JsString} (hx : x.act = .arrived ⟨side, success, txId⟩) :
    K.Safe env (mgr.onChainCallback side success txId) x s := by
  have haside : x.aside = x := OrderPos.aside_arrived hx
  refine Safe.seq (Q := fun r y _ => y.made = x.made ∧
      (r = .ok () → y.act = .report side success txId))
    (follows_call.2 ⟨_, .silent rfl, fun r t => ?_⟩) (fun _ _ _ hy => hy.1) fun _ y t hy => ?_
  · refine ⟨OrderPos.receive_made.trans (congrArg _ haside), ?_⟩
    rintro rfl
    rw [haside]
    change (x.look side txId).act = _
    simp [OrderPos.look, hx]
  · refine ⟨hy.1, safe_dispatch fun ref obj hlive => ?_⟩
    exact (h.states _).onChainCallback side success ref obj txId _ t hlive rfl (hy.2 rfl)

theorem safe_processMqReConnect : K.Safe env mgr.processMqReConnect x s := by
  refine .store ?_
  split
  · exact .pure
  · refine safe_getObj fun obj _ => ?_
    split
    · exact safe_publish
    · exact .pure

variable (K) in
theorem exists_enters (st : S) (ref : Ref) : ∃ act, K.Enters (E := E) st ref act := by
  by_cases hfinal : K.Final st
  · exact ⟨_, .inl ⟨hfinal, rfl⟩⟩
  · exact ⟨_, .inr ⟨hfinal, rfl⟩⟩

/-- The state of a new object is that of its order. -/
theorem state_newObj {entity : E} : ∀ obj, (OrderMgr.newObj entity s).heap[s.heap.length]? = some obj →
    OrderEntity.state obj.entity = (OrderEntity.state entity : S) := by
  intro obj hobj
  rw [OrderMgr.newObj, List.getElem?_concat_length] at hobj
  cases hobj
  rfl

theorem MgrSafe.createOrderObjById (h : K.MgrSafe env mgr) {request : IpcRequest}
    (hx : x = { act := .serving request }) :
    (orderMoves K env).Follows (mgr.createOrderObjById request) Anyhow x s := by
  subst hx
  refine follows_bind.2 (follows_store.2 ?_)
  dsimp only
  split
  · next hlive => exact follows_update.2 ⟨_, .reply (.inr ⟨.inl rfl, hlive.2⟩), trivial⟩
  refine follows_bind.2 (follows_call.2 ⟨_, .silent rfl, fun r t => ?_⟩)
  cases r with
  | error e => exact trivial
  | ok entity =>
    refine follows_bind.2 (follows_store.2 ?_)
    dsimp only
    split
    · next hlive =>
      exact follows_update.2 ⟨_, .reply (.inr ⟨.inr ⟨entity, rfl⟩, hlive.2⟩), trivial⟩
    obtain ⟨act, hact⟩ := K.exists_enters (OrderEntity.state entity) t.heap.length
    refine follows_bind.2 (follows_update.2 ⟨_, .newObj rfl hact, ?_⟩)
    refine follows_bind.2 (((h.states _).change state_newObj hact.closing).mono fun r y u hy => ?_)
    cases r with
    | error e => exact trivial
    | ok _ => exact follows_update.2 ⟨_, .reply (.inl hy), trivial⟩

theorem safe_createOrderObj : K.Safe env (createOrderObj : OrderAsync E S Unit) x s :=
  .store (Safe.bind (.update (.send s.ipcSent) rfl) fun _ _ _ => (safe_silent rfl).bind
    fun _ _ _ => .pure)

/-- Every event starts a function that follows the moves. -/
theorem MgrSafe.starts [DecidableEq S] (h : K.MgrSafe env mgr) :
    (orderMoves K env).Starts (mgr.program env) OrderEvt.start := by
  intro e s t tag p hev
  have hany : ∀ {x : OrderPos E} {p : OrderAsync E S Unit} {s : OrderStore E}, K.Safe env p x s →
      (orderMoves K env).Follows p Anyhow x s := fun h => Follows.mono h fun _ _ _ _ => trivial
  cases e <;> simp only [OrderMgr.program, OrderMgr.event] at hev
  case setOrderPending =>
    split at hev <;> cases hev
    next hinit =>
    exact hany ((h.states _).change state_newObj fun hfinal => absurd hfinal (h.init _ hinit.2))
  case load =>
    split at hev <;> cases hev
    next hpending =>
    exact hany ((h.states _).change state_newObj
      fun hfinal => absurd hfinal (h.pending _ hpending.2))
  case tick =>
    cases hev
    exact hany (safe_dispatch fun ref _ _ => (h.states _).onTick ref _ _)
  case deliver message again =>
    split at hev <;> cases hev
    exact hany (h.deliver rfl)
  case onChain report =>
    cases hev
    exact hany (h.onChainCallback rfl)
  case mqReConnect =>
    cases hev
    exact hany safe_processMqReConnect
  case queueWaited k =>
    split at hev
    · split at hev <;> cases hev
      exact hany (h.onQueueInited _ _ _)
    · cases hev
  case retryExternalOnChain =>
    cases hev
    exact hany (h.retryExternalOnChain _ _)
  case retryInternalOnChain =>
    cases hev
    exact hany (h.retryInternalOnChain _ _)
  case serveIpc request =>
    split at hev <;> cases hev
    exact h.createOrderObjById rfl
  all_goals cases hev

end OrderKind

end CotServer
