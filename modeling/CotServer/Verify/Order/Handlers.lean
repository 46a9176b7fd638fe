import CotServer.Verify.Order.Moves

/-!
# Completed runs of the handlers

A handler that runs to its end on its own, with the object it is given. `OrderEnv.answers` says how
its calls can be answered.
-/

namespace CotServer

open Async

variable {E S : Type}
variable {answer : (op : OrderOp E S) → OrderStore E → Except Err op.Ans → OrderStore E → Prop}
variable {s s' : OrderStore E} {ref : Ref} {obj : OrderObj E} {α : Type} {r : Except Err α}

/-- The object at the reference is read. -/
theorem runs_getObj_bind {k : OrderObj E → OrderAsync E S α} (hobj : s.heap[ref]? = some obj) :
    (OrderObj.getObj ref >>= k).Runs answer s r s' ↔ (k obj).Runs answer s r s' := by
  simp only [OrderObj.getObj, bind_def, Async.bind, store, Runs, hobj]
  rfl

/-- The object is saved. -/
theorem runs_save {r : Except Err Unit}
    (hsave : ∀ e s r s', answer (.save e) s r s' → r = .ok () ∧ s' = { s with row := e })
    (hobj : s.heap[ref]? = some obj)
    (hrun : (OrderObj.save ref : OrderAsync E S Unit).Runs answer s r s') :
    r = .ok () ∧ s' = { s with row := obj.entity } :=
  hsave _ _ _ _ (runs_call.1 ((runs_getObj_bind hobj).1 hrun))

/-- The live object is handed to the handler of its state. -/
theorem runs_dispatch [OrderEntity E S] {mgr : OrderMgr E S}
    {r : Except Err Unit} {handler : OrderState E S → Ref → OrderAsync E S Unit}
    (hlive : s.Live ref obj) :
    (mgr.dispatch handler).Runs answer s r s' ↔
      (handler (mgr.states obj.curStateId) ref).Runs answer s r s' := by
  rw [OrderMgr.dispatch, runs_store_bind, hlive.1]
  exact runs_getObj_bind hlive.2

/-- The hooks run while the change is open. -/
theorem runs_change {state : OrderState E S} {r : Except Err Unit} :
    (state.change ref).Runs answer s r s' ↔
      ∃ t, (state.enter ref).Runs answer (s.openChange ref) r t ∧ s' = t.closeChange ref := by
  rw [OrderState.change, runs_update_bind, runs_bind]
  constructor
  · rintro (⟨e, rfl, h⟩ | ⟨_, t, h, hclose⟩)
    · rcases runs_tryCatch.1 h with ⟨_, hok, _⟩ | ⟨e', t, henter, hcatch⟩
      · cases hok
      · obtain ⟨herror, rfl⟩ := hcatch
        cases herror
        exact ⟨t, henter, rfl⟩
    · obtain ⟨rfl, rfl⟩ := runs_update.1 hclose
      rcases runs_tryCatch.1 h with ⟨_, _, henter⟩ | ⟨e', _, _, hcatch⟩
      · exact ⟨t, henter, rfl⟩
      · cases hcatch.1
  · rintro ⟨t, henter, rfl⟩
    cases r with
    | error e => exact .inl ⟨e, rfl, runs_tryCatch.2 (.inr ⟨e, t, henter, rfl, rfl⟩)⟩
    | ok a => exact .inr ⟨a, t, runs_tryCatch.2 (.inl ⟨a, rfl, henter⟩), rfl, rfl⟩

theorem segment_getObj_bind {k : OrderObj E → OrderAsync E S α} (hobj : s.heap[ref]? = some obj) :
    (OrderObj.getObj ref >>= k).segment s = (k obj).segment s := by
  simp only [OrderObj.getObj, bind_def, Async.bind, store, Async.segment, hobj]
  rfl

theorem segment_dispatch [OrderEntity E S] {mgr : OrderMgr E S}
    {handler : OrderState E S → Ref → OrderAsync E S Unit} (hlive : s.Live ref obj) :
    (mgr.dispatch handler).segment s = (handler (mgr.states obj.curStateId) ref).segment s := by
  obtain ⟨hprocessing, hobj⟩ := hlive
  simp only [OrderMgr.dispatch, bind_def, Async.bind, store, Async.segment, hprocessing]
  exact segment_getObj_bind hobj

/-! ## Answers -/

variable [OrderEntity E S] [DecidableEq S]

/-- The calls do not reach the memory of the order worker. -/
structure OrderStore.SameMemory {E : Type} (s t : OrderStore E) : Prop where
  heap : t.heap = s.heap
  processing : t.processing = s.processing
  waiting : t.waiting = s.waiting
  internalOnChainQueueInited : t.internalOnChainQueueInited = s.internalOnChainQueueInited
  now : t.now = s.now
  started : t.started = s.started
  reports : t.reports = s.reports
  accepted : t.accepted = s.accepted

theorem OrderOp.answer_memory {env : OrderEnv} {op : OrderOp E S} {o : OrderChoice}
    {r : Except Err op.Ans} (h : op.answer env o s = some (r, s')) : s.SameMemory s' := by
  cases o with
  | fails e => cases h; exact ⟨rfl, rfl, rfl, rfl, rfl, rfl, rfl, rfl⟩
  | _ =>
    cases op <;> simp only [OrderOp.answer, OrderStore.resetTrans, OrderStore.create,
      reduceCtorEq] at h
    all_goals (try split at h) <;> cases h
    all_goals exact ⟨rfl, rfl, rfl, rfl, rfl, rfl, rfl, rfl⟩

/-- No call takes a message out of the queue. -/
theorem OrderOp.answer_messages {env : OrderEnv} {op : OrderOp E S} {o : OrderChoice}
    {r : Except Err op.Ans} (h : op.answer env o s = some (r, s')) : s.messages ⊆ s'.messages := by
  cases o with
  | fails e => cases h; exact List.Subset.refl _
  | _ =>
    cases op <;> simp only [OrderOp.answer, OrderStore.resetTrans, OrderStore.create,
      reduceCtorEq] at h
    all_goals (try split at h) <;> cases h
    all_goals simp

end CotServer
