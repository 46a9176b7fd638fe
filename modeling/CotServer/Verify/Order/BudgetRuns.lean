import CotServer.Verify.Order.Budget
import CotServer.Verify.Order.Steps

/-!
# The retry budget over whole runs

What the functions of the order worker share, and from what the states of a kind do, what every run
of functions one after another does.
-/

namespace CotServer

open Async OrderObj

variable {E S : Type} [OrderEntity E S]
variable {answer : (op : OrderOp E S) → OrderStore E → Except Err op.Ans → OrderStore E → Prop}
variable {s s' t : OrderStore E} {ref : Ref} {obj : OrderObj E} {α : Type} {r : Except Err Unit}

/-- The dispatcher does nothing, or runs the handler of the live object. -/
theorem runs_dispatch_cases {mgr : OrderMgr E S} {handler : OrderState E S → Ref → OrderAsync E S Unit}
    (h : (mgr.dispatch handler).Runs answer s r s') :
    s' = s ∨ ∃ ref obj, s.Live ref obj ∧
      (handler (mgr.states obj.curStateId) ref).Runs answer s r s' := by
  cases hprocessing : s.processing with
  | none =>
    rw [OrderMgr.dispatch, runs_store_bind, hprocessing] at h
    exact .inl h.2
  | some ref =>
    cases hobj : s.heap[ref]? with
    | none =>
      rw [OrderMgr.dispatch, runs_store_bind, hprocessing] at h
      simp only [getObj, Async.bind_def, Async.bind, store, Async.Runs, hobj] at h
      exact .inl h.2
    | some obj =>
      have hlive : s.Live ref obj := ⟨hprocessing, hobj⟩
      exact .inr ⟨ref, obj, hlive, (runs_dispatch hlive).1 h⟩

namespace RetryKind

variable {K : RetryKind E S} {env : OrderEnv}

/-! ## Functions that accept no failure -/

section Rules

theorem keeps_bind {p : OrderAsync E S α} {β : Type} {f : α → OrderAsync E S β}
    (hp : p.Keeps answer (K.Evolves env)) (hf : ∀ a, (f a).Keeps answer (K.Evolves env)) :
    (p >>= f).Keeps answer (K.Evolves env) :=
  Keeps.bind (fun _ _ _ => .trans) hp hf

theorem keeps_pure (a : α) : (pure a : OrderAsync E S α).Keeps answer (K.Evolves env) :=
  Keeps.pure .refl a

theorem keeps_throw (e : Err) : (throw e : OrderAsync E S α).Keeps answer (K.Evolves env) :=
  Keeps.throw .refl e

theorem keeps_store : (store : OrderAsync E S _).Keeps answer (K.Evolves env) := Keeps.store .refl

theorem keeps_getObj : (getObj ref : OrderAsync E S _).Keeps answer (K.Evolves env) := by
  apply keeps_bind keeps_store
  intro s
  split
  · exact keeps_pure _
  · exact keeps_throw _

theorem keeps_modifyObj {f : OrderObj E → OrderObj E}
    (hnum : ∀ obj, (f obj).retryTxNum = obj.retryTxNum)
    (hstate : ∀ obj, (f obj).curStateId = obj.curStateId) :
    (modifyObj ref f : OrderAsync E S Unit).Keeps answer (K.Evolves env) :=
  Keeps.update fun _ => .modify hnum fun obj _ _ => hstate obj

theorem Evolves.close : K.Evolves env s (if s.processing = some ref then s.unmap else s) := by
  split
  · exact .of_same rfl rfl
  · exact .refl s

theorem serves_bind {p : OrderAsync E S α} {β : Type} {f : α → OrderAsync E S β}
    (hp : p.Keeps answer (K.Serves env ref)) (hf : ∀ a, (f a).Keeps answer (K.Serves env ref)) :
    (p >>= f).Keeps answer (K.Serves env ref) :=
  Keeps.bind Serves.trans hp hf

theorem serves_of_keeps {p : OrderAsync E S α} (hp : p.Keeps answer (K.Evolves env)) :
    p.Keeps answer (K.Serves env ref) :=
  hp.mono fun _ _ h _ => h

/-- An object within its limit may change its state. -/
theorem serves_setState {st : S} :
    (modifyObj ref fun obj => { obj with entity := OrderEntity.setState st obj.entity } :
      OrderAsync E S Unit).Keeps answer (K.Serves env ref) := by
  apply Keeps.update
  intro s hwithin
  apply Evolves.modify
  · exact fun _ => rfl
  · intro obj hobj hexhausted
    exact absurd hexhausted (hwithin obj hobj)

/-- An open state change is no part of the budget. -/
theorem serves_change {state : OrderState E S} {ref' : Ref}
    (henter : (state.enter ref').Keeps answer (K.Serves env ref)) :
    (state.change ref').Keeps answer (K.Serves env ref) := by
  intro s r s' hrun
  obtain ⟨t, hhooks, rfl⟩ := runs_change.1 hrun
  have hopen : K.Serves env ref s (s.openChange ref') := fun _ => .of_same rfl rfl
  have hclose : K.Serves env ref t (t.closeChange ref') := fun _ => .of_same rfl rfl
  exact (hopen.trans _ _ _ (henter _ _ _ hhooks)).trans _ _ _ hclose

theorem serves_changeState {state : OrderState E S} {st : S}
    (henter : (state.enter ref).Keeps answer (K.Serves env ref)) :
    (changeState state ref st).Keeps answer (K.Serves env ref) :=
  serves_bind serves_setState fun _ => serves_change henter

variable (hmemory : ∀ op s r s', answer op s r s' → s.SameMemory s')

include hmemory

theorem keeps_call (op : OrderOp E S) : (call op).Keeps answer (K.Evolves env) := by
  apply Keeps.call
  intro s r s' h
  have hsame := hmemory op s r s' h
  exact .of_same hsame.heap hsame.accepted

theorem keeps_save : (save ref : OrderAsync E S Unit).Keeps answer (K.Evolves env) :=
  keeps_bind keeps_getObj fun _ => keeps_call hmemory _

theorem keeps_saveState : (saveState ref : OrderAsync E S Unit).Keeps answer (K.Evolves env) :=
  keeps_bind keeps_getObj fun _ => keeps_call hmemory _

theorem keeps_close : (close ref : OrderAsync E S Unit).Keeps answer (K.Evolves env) :=
  keeps_bind (keeps_save hmemory) fun _ => Keeps.update fun _ => .close

theorem keeps_createOrderObj : (createOrderObj : OrderAsync E S Unit).Keeps answer (K.Evolves env) := by
  apply keeps_bind keeps_store
  intro s
  refine keeps_bind (Keeps.update ?_) fun _ => ?_
  · exact fun _ => .of_same rfl rfl
  · exact keeps_bind (keeps_call hmemory _) fun _ => keeps_pure _

theorem keeps_processMqReConnect (mgr : OrderMgr E S) :
    mgr.processMqReConnect.Keeps answer (K.Evolves env) := by
  apply keeps_bind keeps_store
  intro s
  split
  · exact keeps_pure _
  · apply keeps_bind keeps_getObj
    intro obj
    split
    · exact keeps_call hmemory _
    · exact keeps_pure _

end Rules

/-! ## The states of a kind -/

variable (K env) in
/-- What the hooks and handlers of a state do, but for the handler of the failures that are
counted. -/
structure HandlersKeep (answer : (op : OrderOp E S) → OrderStore E → Except Err op.Ans →
      OrderStore E → Prop) (R : Ref → OrderStore E → OrderStore E → Prop) (st : S)
    (state : OrderState E S) : Prop where
  enter : ∀ ref, (state.enter ref).Keeps answer (R ref)
  onTick : ∀ ref, (state.onTick ref).Keeps answer (R ref)
  onToTxStartCallback : ∀ ref, (state.onToTxStartCallback ref).Keeps answer (R ref)
  onInternalChainTryTransferCallback : ∀ ref accountType,
    (state.onInternalChainTryTransferCallback ref accountType).Keeps answer (R ref)
  onChainCallback : ∀ side success ref txId,
    ¬ (st = K.outgoingWait ∧ side = K.outgoing ∧ success = false) →
      (state.onChainCallback side success ref txId).Keeps answer (R ref)

variable (K env) in
/-- The functions of the kind respect its budget. -/
structure Kept (answer : (op : OrderOp E S) → OrderStore E → Except Err op.Ans →
    OrderStore E → Prop) : Prop where
  fail_ne_wait : K.outgoingFail ≠ K.outgoingWait
  states : ∀ st, K.HandlersKeep answer (K.Serves env) st ((K.mgr env).states st)
  failed : K.HandlersKeep answer (fun _ => K.Evolves env) K.outgoingFail
    ((K.mgr env).states K.outgoingFail)
  fail : ∀ s r s' ref txId (obj : OrderObj E), s.heap[ref]? = some obj →
    obj.curStateId = K.outgoingWait → ¬ K.Exhausted env obj →
      (((K.mgr env).states K.outgoingWait).onChainCallback K.outgoing false ref txId).Runs answer
        s r s' → K.Steps env s s'
  onQueueInited : ∀ ref, ((K.mgr env).onQueueInited ref).Keeps answer (K.Evolves env)
  retryExternalOnChain : (K.mgr env).retryExternalOnChain.Keeps answer (K.Evolves env)
  retryInternalOnChain : (K.mgr env).retryInternalOnChain.Keeps answer (K.Evolves env)

theorem HandlersKeep.serves {st : S} {state : OrderState E S}
    (h : K.HandlersKeep answer (fun _ => K.Evolves env) st state) :
    K.HandlersKeep answer (K.Serves env) st state where
  enter ref := serves_of_keeps (h.enter ref)
  onTick ref := serves_of_keeps (h.onTick ref)
  onToTxStartCallback ref := serves_of_keeps (h.onToTxStartCallback ref)
  onInternalChainTryTransferCallback ref accountType :=
    serves_of_keeps (h.onInternalChainTryTransferCallback ref accountType)
  onChainCallback side success ref txId hst :=
    serves_of_keeps (h.onChainCallback side success ref txId hst)

/-- A state without callbacks: the base class ignores every report. -/
theorem keeps_ignore {state : OrderState E S}
    (hexternalSuccess : state.onExternalChainSuccessCallback = fun _ _ => pure ())
    (hexternalFail : state.onExternalChainFailCallback = fun _ _ => pure ())
    (hinternalSuccess : state.onInternalChainSuccessCallback = fun _ _ => pure ())
    (hinternalFail : state.onInternalChainFailCallback = fun _ _ => pure ()) (side : ChainSide)
    (success : Bool) (ref : Ref) (txId : JsString) :
    (state.onChainCallback side success ref txId).Keeps answer (K.Evolves env) := by
  cases side <;> cases success <;>
    simp only [OrderState.onChainCallback, hexternalSuccess, hexternalFail, hinternalSuccess,
      hinternalFail]
  all_goals exact keeps_pure ()

/-- The final states save the order and close its object. -/
theorem handlersKeep_final (hmemory : ∀ op s r s', answer op s r s' → s.SameMemory s') {st : S}
    {onEnterState : Ref → OrderAsync E S Unit}
    (hEnter : ∀ ref, (onEnterState ref).Keeps answer (K.Evolves env)) :
    K.HandlersKeep answer (fun _ => K.Evolves env) st { onEnterState, afterEnterState := close } where
  enter ref := by
    apply keeps_bind (keeps_pure ())
    intro _
    exact keeps_bind (hEnter ref) fun _ => keeps_close hmemory
  onTick _ := keeps_pure ()
  onToTxStartCallback _ := keeps_pure ()
  onInternalChainTryTransferCallback _ _ := keeps_pure ()
  onChainCallback side success ref txId _ := keeps_ignore rfl rfl rfl rfl side success ref txId

theorem handlersKeep_base (st : S) :
    K.HandlersKeep answer (fun _ => K.Evolves env) st ({} : OrderState E S) where
  enter ref := by
    apply keeps_bind (keeps_pure ())
    intro _
    exact keeps_bind (keeps_pure ()) fun _ => keeps_pure ()
  onTick _ := keeps_pure ()
  onToTxStartCallback _ := keeps_pure ()
  onInternalChainTryTransferCallback _ _ := keeps_pure ()
  onChainCallback side success ref txId _ := keeps_ignore rfl rfl rfl rfl side success ref txId

/-! ## Failures -/

section Failures

variable {txId : JsString} {f : OrderObj E → OrderObj E}

theorem Fails.of_modify (hobj : s.heap[ref]? = some obj) (hwithin : ¬ K.Exhausted env obj)
    (hafter : K.After env (obj.retryTxNum + 1) s.now (f obj)) (hheap : t.heap = s.heap.modify ref f)
    (haccepted : t.accepted = (ref, txId) :: s.accepted) : K.Fails env ref txId s t where
  accepted := haccepted
  length := by rw [hheap, List.length_modify]
  object := ⟨obj, f obj, hobj, hwithin, by rw [hheap, List.getElem?_modify_eq, hobj]; rfl, hafter⟩
  other ref' hne := by simp [hheap, Ne.symm hne]

variable (hsave : ∀ e s r s', answer (.save e) s r s' → r = .ok () ∧ s' = { s with row := e })

include hsave

/-- A final state is entered. -/
theorem runs_changeState_final {st : S} (hobj : s.heap[ref]? = some obj)
    (hrun : (changeState { afterEnterState := close } ref st).Runs answer s r s') :
    s'.heap = s.heap.modify ref (OrderObj.setState st) ∧ s'.accepted = s.accepted := by
  have hobj' : (s.heap.modify ref (OrderObj.setState st))[ref]? = some (obj.setState st) := by
    rw [List.getElem?_modify_eq, hobj]
    rfl
  rw [changeState, modifyObj, runs_update_bind] at hrun
  obtain ⟨u, henter, rfl⟩ := runs_change.1 hrun
  have hclose : (close ref : OrderAsync E S Unit).Runs answer
      (OrderStore.openChange ref { s with heap := s.heap.modify ref (OrderObj.setState st) }) r u :=
    henter
  rcases runs_bind.1 hclose with ⟨e, _, hthrows⟩ | ⟨_, t, hsaved, hclose⟩
  · cases (runs_save hsave hobj' hthrows).1
  · obtain ⟨_, rfl⟩ := runs_save hsave hobj' hsaved
    obtain ⟨_, rfl⟩ := runs_update.1 hclose
    unfold OrderStore.closeChange
    split <;> exact ⟨rfl, rfl⟩

/-- The end of `__retryToTx`: the failure is counted, and the order fails when the limit is used
up. -/
theorem fails_of_retry {k : OrderObj E → OrderAsync E S Unit} (hobj : s.heap[ref]? = some obj)
    (hwithin : ¬ K.Exhausted env obj) (hnum : (f obj).retryTxNum = obj.retryTxNum + 1)
    (hwait : (f obj).curStateId = K.outgoingWait)
    (houtTx : K.outTx (f obj).entity = OrderEntity.entityId (f obj).entity)
    (hstamp : (f obj).retryTxStamp = some (s.now + K.retryInterval env))
    (hreturn : (f obj).retryTxNum ≤ K.retryMaxNum env → k (f obj) = pure ())
    (hfail : ¬ (f obj).retryTxNum ≤ K.retryMaxNum env →
      k (f obj) = changeState { afterEnterState := close } ref K.outgoingFail)
    (hrun : (acceptFailure ref txId f >>= fun _ => save ref >>= fun _ => getObj ref >>= k).Runs
      answer s r s') : K.Fails env ref txId s s' := by
  have hobj' : (s.heap.modify ref f)[ref]? = some (f obj) := by
    rw [List.getElem?_modify_eq, hobj]
    rfl
  rw [acceptFailure, runs_update_bind] at hrun
  rcases runs_bind.1 hrun with ⟨e, _, hthrows⟩ | ⟨_, t, hreturns, hrun⟩
  · cases (runs_save hsave hobj' hthrows).1
  obtain ⟨_, rfl⟩ := runs_save hsave hobj' hreturns
  rw [runs_getObj_bind hobj'] at hrun
  by_cases hle : (f obj).retryTxNum ≤ K.retryMaxNum env
  · rw [hreturn hle] at hrun
    obtain ⟨_, rfl⟩ := hrun
    refine .of_modify hobj hwithin ⟨hnum, ?_, ?_⟩ rfl rfl
    · exact fun _ => ⟨hwait, houtTx, hstamp⟩
    · intro hlt
      omega
  · rw [hfail hle] at hrun
    obtain ⟨hheap, haccepted⟩ := runs_changeState_final hsave hobj' hrun
    refine .of_modify (f := OrderObj.setState K.outgoingFail ∘ f) hobj hwithin ⟨hnum, ?_, ?_⟩ ?_ haccepted
    · intro hle'
      omega
    · exact fun _ => OrderEntity.state_setState _ _
    · rw [hheap, List.modify_modify_eq]

end Failures

/-! ## The functions of the order worker -/

variable {mgr : OrderMgr E S}

/-- The live object is within its limit, or it has failed. -/
theorem InBudget.live (h : K.InBudget env s) (hlive : s.Live ref obj) :
    K.Within env ref s ∨ obj.curStateId = K.outgoingFail := by
  by_cases hexhausted : K.Exhausted env obj
  · exact .inr (h.bounded ref obj hlive.2 hexhausted).2
  · left
    intro obj' hobj'
    rw [hlive.2] at hobj'
    cases hobj'
    exact hexhausted

/-- A handler of the live object, if that is none for failures. -/
theorem Kept.dispatch (hK : K.Kept env answer) (h : K.InBudget env s)
    {handler : OrderState E S → Ref → OrderAsync E S Unit}
    (hhandler : ∀ {R st state}, K.HandlersKeep answer R st state →
      ∀ ref, (handler state ref).Keeps answer (R ref))
    (hrun : ((K.mgr env).dispatch handler).Runs answer s r s') : K.Evolves env s s' := by
  rcases runs_dispatch_cases hrun with rfl | ⟨ref, obj, hlive, hrun⟩
  · exact .refl _
  · rcases h.live hlive with hwithin | hfail
    · exact hhandler (hK.states _) ref s r s' hrun hwithin
    · rw [hfail] at hrun
      exact hhandler hK.failed ref s r s' hrun

/-- A report that is handed over. -/
theorem Kept.dispatch_report (hK : K.Kept env answer) (h : K.InBudget env s) {side : ChainSide}
    {success : Bool} {txId : JsString}
    (hrun : ((K.mgr env).dispatch fun state ref =>
      state.onChainCallback side success ref txId).Runs answer s r s') : K.Steps env s s' := by
  rcases runs_dispatch_cases hrun with rfl | ⟨ref, obj, hlive, hrun⟩
  · exact .inl (.refl _)
  · rcases h.live hlive with hwithin | hfail
    · by_cases hcounted : obj.curStateId = K.outgoingWait ∧ side = K.outgoing ∧ success = false
      · obtain ⟨hwait, rfl, rfl⟩ := hcounted
        rw [hwait] at hrun
        exact hK.fail s r s' ref txId obj hlive.2 hwait (hwithin obj hlive.2) hrun
      · exact .inl ((hK.states _).onChainCallback side success ref txId hcounted s r s' hrun hwithin)
    · rw [hfail] at hrun
      refine .inl (hK.failed.onChainCallback side success ref txId ?_ s r s' hrun)
      intro hcounted
      exact hK.fail_ne_wait hcounted.1

/-- A new object enters its state. -/
theorem Kept.enterNew (hK : K.Kept env answer) {entity : E}
    (hrun : ((K.mgr env).enterNew entity s.heap.length).Runs answer (OrderMgr.newObj entity s) r s') :
    K.Evolves env s s' := by
  have hnew : K.Evolves env s (OrderMgr.newObj entity s) := .newObj entity
  refine hnew.trans (serves_change ((hK.states _).enter _) _ r s' hrun ?_)
  intro obj hobj hexhausted
  rw [Exhausted, hnew.new _ obj (Nat.le_refl _) hobj] at hexhausted
  omega

theorem Kept.createOrderObjById (hK : K.Kept env answer)
    (hmemory : ∀ op s r s', answer op s r s' → s.SameMemory s') {request : IpcRequest}
    (hrun : ((K.mgr env).createOrderObjById request).Runs answer s r s') : K.Evolves env s s' := by
  rw [OrderMgr.createOrderObjById, runs_store_bind] at hrun
  split at hrun
  · obtain ⟨_, rfl⟩ := runs_update.1 hrun
    exact .of_same rfl rfl
  rcases runs_bind.1 hrun with ⟨e, _, hfind⟩ | ⟨entity, t, hfind, hrun⟩
  · exact keeps_call hmemory _ s _ s' hfind
  · have hread : K.Evolves env s t := keeps_call hmemory _ s _ t hfind
    rw [runs_store_bind] at hrun
    split at hrun
    · obtain ⟨_, rfl⟩ := runs_update.1 hrun
      exact hread.trans (.of_same rfl rfl)
    rw [runs_update_bind] at hrun
    rcases runs_bind.1 hrun with ⟨e, _, henter⟩ | ⟨_, u, henter, hreply⟩
    · exact hread.trans (hK.enterNew henter)
    · obtain ⟨_, rfl⟩ := runs_update.1 hreply
      exact (hread.trans (hK.enterNew henter)).trans (.of_same rfl rfl)

theorem Kept.deliver (hK : K.Kept env answer) (h : K.InBudget env s) {message : OrderMessage}
    (hrun : ((K.mgr env).deliver message).Runs answer s r s') : K.Evolves env s s' := by
  have hconsume : ∀ {r t}, ((K.mgr env).consume message).Runs answer s r t → K.Evolves env s t := by
    intro r t hrun
    cases message with
    | TO_TX_START => exact hK.dispatch h (fun hstate => hstate.onToTxStartCallback) hrun
    | TRY_TRANSFER accountType =>
      cases accountType with
      | none => exact keeps_pure () s r t hrun
      | some accountType =>
        have hdispatch : ((K.mgr env).dispatch fun state ref =>
          state.onInternalChainTryTransferCallback ref accountType).Runs answer s r t := hrun
        refine hK.dispatch h (fun hstate ref => ?_) hdispatch
        exact hstate.onInternalChainTryTransferCallback ref accountType
    | SUCCESS => exact keeps_pure () s r t hrun
  rcases runs_tryCatch.1 hrun with ⟨_, _, hreturns⟩ | ⟨e, t, hthrows, hcatch⟩
  · exact hconsume hreturns
  · obtain ⟨_, rfl⟩ := hcatch
    exact (hconsume hthrows).trans (.of_same rfl rfl)

theorem Kept.onChainCallback (hK : K.Kept env answer)
    (hmemory : ∀ op s r s', answer op s r s' → s.SameMemory s') (h : K.InBudget env s)
    {side : ChainSide} {success : Bool} {txId : JsString}
    (hrun : ((K.mgr env).onChainCallback side success txId).Runs answer s r s') :
    K.Steps env s s' := by
  rcases runs_bind.1 hrun with ⟨e, _, hget⟩ | ⟨_, t, hget, hrun⟩
  · exact .inl (keeps_call hmemory _ s _ s' hget)
  · have hread := hmemory _ s _ t (runs_call.1 hget)
    have hsame : K.Evolves env s t := .of_same hread.heap hread.accepted
    have hsteps := hK.dispatch_report (h.evolves hsame) hrun
    exact hsteps.of_same hread.heap hread.accepted hread.now

/-! ## Runs -/

section Runs

variable {e : OrderEvt}

theorem event_evolves {p : Option (OrderProcess × OrderAsync E S Unit)}
    (h : (K.mgr env).event e s = some (t, p)) : K.Evolves env s t := by
  cases OrderMgr.event_cases h with
  | aux hcore _ => exact .of_same hcore.heap hcore.accepted
  | deliver hcore => exact .of_same hcore.heap hcore.accepted
  | restart hcore => exact .of_same hcore.heap hcore.accepted
  | setOrderPending _ _ => exact .newObj _
  | load _ _ => exact .newObj _
  | onChain report => exact .of_same rfl rfl
  | serveIpc _ => exact .of_same rfl rfl

/-- The function that an event starts. -/
theorem Kept.event (hK : K.Kept env answer)
    (hmemory : ∀ op s r s', answer op s r s' → s.SameMemory s') (h : K.InBudget env s)
    {tag : OrderProcess} {p : OrderAsync E S Unit}
    (hevent : (K.mgr env).event e s = some (t, some (tag, p))) (hrun : p.Runs answer t r s') :
    K.Steps env s s' := by
  have hst := event_evolves hevent
  have ht := h.evolves hst
  have hlater : K.Evolves env t s' → K.Steps env s s' := fun hts => .inl (hst.trans hts)
  cases e <;> simp only [OrderMgr.event] at hevent
  case setOrderPending =>
    split at hevent <;> cases hevent
    exact .inl (hK.enterNew hrun)
  case load =>
    split at hevent <;> cases hevent
    exact .inl (hK.enterNew hrun)
  case tick =>
    cases hevent
    exact hlater (hK.dispatch ht (fun hstate => hstate.onTick) hrun)
  case deliver message again =>
    split at hevent <;> cases hevent
    exact hlater (hK.deliver ht hrun)
  case onChain report =>
    cases hevent
    refine Steps.of_same ?_ ?_ ?_ (hK.onChainCallback hmemory ht hrun)
    · rfl
    · rfl
    · rfl
  case mqReConnect =>
    cases hevent
    exact hlater (keeps_processMqReConnect hmemory _ _ _ _ hrun)
  case queueWaited k =>
    split at hevent
    · split at hevent <;> cases hevent
      exact hlater (hK.onQueueInited _ _ _ _ hrun)
    · cases hevent
  case retryExternalOnChain =>
    cases hevent
    exact hlater (hK.retryExternalOnChain _ _ _ hrun)
  case retryInternalOnChain =>
    cases hevent
    exact hlater (hK.retryInternalOnChain _ _ _ hrun)
  case serveIpc request =>
    split at hevent <;> cases hevent
    exact hlater (hK.createOrderObjById hmemory hrun)
  all_goals cases hevent

theorem InBudget.start (hheap : s.heap = []) (haccepted : s.accepted = []) :
    K.InBudget env s where
  known p hp := by
    rw [haccepted] at hp
    cases hp
  counted ref obj hobj := by
    rw [hheap] at hobj
    cases hobj
  bounded ref obj hobj := by
    rw [hheap] at hobj
    cases hobj

variable [DecidableEq S] {sure : OrderOp E S → Bool}

variable (K env) in
/-- The functions of the order worker one after another, when saving does not throw. -/
def worker : System (OrderStore E) (OrderEvt × List OrderChoice) :=
  ((K.mgr env).sureProgram env OrderOp.saves).atomic

/-- A run of the worker is a run of the interleaved program. -/
theorem worker_run {ls : List (OrderEvt × List OrderChoice)}
    (h : (K.worker env).run s ls = some s') :
    ∃ ls', ((K.mgr env).program env).system.run ⟨s, []⟩ ls' = some ⟨s', []⟩ := by
  induction ls generalizing s with
  | nil =>
    cases h
    exact ⟨[], rfl⟩
  | cons l ls ih =>
    rw [System.run_cons, Option.bind_eq_some_iff] at h
    obtain ⟨t, hstep, h⟩ := h
    obtain ⟨r, hhandle⟩ := Program.atomic_step hstep
    obtain ⟨ls₁, hls₁⟩ := sureProgram_handle_run hhandle
    obtain ⟨ls₂, hls₂⟩ := ih h
    exact ⟨_, System.run_append hls₁ hls₂⟩

variable (K env) in
/-- In every run from before the first object, when the handler of a failure has finished, the
object is as its number of failures says, and that is at most one beyond the limit. -/
def BudgetExact : Prop :=
  ∀ (s s' t : OrderStore E) ls l ref txId, s.heap = [] → s.accepted = [] →
    (K.worker env).run s ls = some s' → (K.worker env).step s' l = some t →
      t.accepted = (ref, txId) :: s'.accepted →
        ∃ obj, t.heap[ref]? = some obj ∧ K.After env (t.failures ref) s'.now obj ∧
          t.failures ref ≤ K.retryMaxNum env + 1

/-- A function that runs to its end on its own. -/
theorem Kept.handle (hK : K.Kept env ((K.mgr env).sureProgram env sure).answers)
    (h : K.InBudget env s) {os : List OrderChoice}
    (hrun : ((K.mgr env).sureProgram env sure).handle s e os = some (r, s')) :
    K.Steps env s s' := by
  rcases Program.handle_cases hrun with ⟨hevent, _⟩ | ⟨t, tag, p, hevent, hrun⟩
  · exact .inl (event_evolves hevent)
  · exact hK.event (fun _ _ _ _ => sureProgram_memory) h hevent hrun

/-- The budget is kept in every run. -/
theorem Kept.run (hK : K.Kept env ((K.mgr env).sureProgram env sure).answers)
    (h : K.InBudget env s) {ls : List (OrderEvt × List OrderChoice)}
    (hrun : ((K.mgr env).sureProgram env sure).atomic.run s ls = some s') :
    K.InBudget env s' := by
  refine System.run_invariant (C := fun _ _ => True) ?_ h (System.meets_true s ls) hrun
  intro s l s' h _ hstep
  obtain ⟨r, hhandle⟩ := Program.atomic_step hstep
  exact h.steps (hK.handle h hhandle)

theorem Kept.budgetExact (hK : K.Kept env ((K.mgr env).sureProgram env OrderOp.saves).answers) :
    K.BudgetExact env := by
  intro s s' t ls l ref txId hheap haccepted hrun hstep hfailure
  have hbudget := hK.run (.start hheap haccepted) hrun
  obtain ⟨r, hhandle⟩ := Program.atomic_step hstep
  exact hbudget.after (hK.handle hbudget hhandle) hfailure

end Runs

end RetryKind

end CotServer
