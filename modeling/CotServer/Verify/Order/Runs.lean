import CotServer.Verify.Order.Rules
import Mathlib.Data.Fintype.EquivFin

/-!
# Runs of the order worker

What a manager has to satisfy for every run of the order worker to keep the invariant of the order.
-/

namespace CotServer

open Async Logic

namespace OrderCase

variable {E S : Type} [OrderEntity E S] [DecidableEq S]
variable {C : OrderCase E S} {s : OrderStore E}

variable (C) in
/-- What a kind of order adds to the manager keeps the invariant. -/
structure MgrSafe : Prop where
  states : ∀ st, C.StateSafe st (C.mgr.states st)
  setOrderPending : ∀ s e, C.mgr.getInitOrderOptions (OrderEntity.state e) = true →
    C.EntityOk s e → C.EntityOk s (C.mgr.setOrderPending e)
  onQueueInited : ∀ ref s, C.Inv s → C.Safe (C.mgr.onQueueInited ref) s
  retryExternalOnChain : ∀ s, C.Inv s → C.Safe C.mgr.retryExternalOnChain s
  retryInternalOnChain : ∀ s, C.Inv s → C.Safe C.mgr.retryInternalOnChain s

/-- An object is handed to the handler of its state. -/
theorem safe_dispatch {handler : OrderState E S → Ref → OrderAsync E S Unit} (hI : C.Inv s)
    (hhandler : ∀ ref (obj : OrderObj E), C.StateOk s obj.curStateId →
      C.Safe (handler (C.mgr.states obj.curStateId) ref) s) :
    C.Safe (C.mgr.dispatch handler) s := by
  refine triple_store ?_
  split
  · exact Safe.pure hI
  · next ref _ =>
    refine (triple_getObj hI).bind fun obj _ _ _ h => ?_
    obtain ⟨rfl, hobj⟩ := h
    exact hhandler ref obj (hI.object hobj).state

/-- A message goes to the handler of the object's state, and is put back when that throws. -/
theorem MgrSafe.deliver (h : C.MgrSafe) {message : OrderMessage} (hI : C.Inv s) :
    C.Safe (C.mgr.deliver message) s := by
  refine Triple.tryCatch ?_ fun e t _ hI => ?_
  · match message with
    | .TO_TX_START =>
      exact safe_dispatch hI fun ref obj hst => (h.states _).onToTxStartCallback ref s hI hst
    | .TRY_TRANSFER none => exact Safe.pure hI
    | .TRY_TRANSFER (some accountType) =>
      change C.Safe (C.mgr.dispatch fun state ref =>
        state.onInternalChainTryTransferCallback ref accountType) s
      exact safe_dispatch hI fun ref obj hst =>
        (h.states _).onInternalChainTryTransferCallback ref accountType s hI hst
    | .SUCCESS => exact Safe.pure hI
  · refine (safe_update_sameOrder hI fun u => ?_).bind fun _ u _ hI _ => triple_throw hI
    exact ⟨rfl, rfl, rfl, rfl, rfl⟩

theorem MgrSafe.onChainCallback (h : C.MgrSafe) {report : Report} (hI : C.Inv s)
    (hreport : report ∈ s.reports) :
    C.Safe (C.mgr.onChainCallback report.side report.success report.txId) s :=
  (safe_neutral hI rfl).bind fun _ t hR hI _ => safe_dispatch hI fun ref _ hst =>
    (h.states _).onChainCallback _ _ ref _ t hI hst (hR.reports hreport)

theorem safe_processMqReConnect (hI : C.Inv s) : C.Safe C.mgr.processMqReConnect s := by
  refine triple_store ?_
  split
  · exact Safe.pure hI
  · refine (triple_getObj hI).bind ?_
    rintro obj _ - - ⟨rfl, -⟩
    split
    · exact safe_publishOrderEvent hI
    · exact Safe.pure hI

theorem MgrSafe.createOrderObjById (h : C.MgrSafe) {request : IpcRequest} (hI : C.Inv s)
    (hmany : ¬ C.alone) : C.Safe (C.mgr.createOrderObjById request) s := by
  have hreply : ∀ t, C.Inv t → C.Safe (S := S) (OrderMgr.replyIpc request) t :=
    fun t hI => safe_update_sameOrder hI fun _ => ⟨rfl, rfl, rfl, rfl, rfl⟩
  refine triple_store ?_
  split
  · exact hreply s hI
  refine (triple_findOneByForce hI).bind fun e t _ hI he => triple_store ?_
  split
  · exact hreply t hI
  refine (triple_update (seg_newObj hI he fun ha => absurd ha hmany) trivial).bind
    (Q := fun _ _ => True) fun _ u hR hI _ => ?_
  exact ((h.states _).change hI (he.state.later hR)).bind fun _ v _ hI _ => hreply v hI

theorem safe_createOrderObj (hI : C.Inv s) : C.Safe (createOrderObj : OrderAsync E S Unit) s := by
  refine triple_store (Triple.bind (Q := fun _ _ => True) (safe_update_sameOrder hI fun u => ?_)
    fun _ t _ hI _ => (safe_neutral hI rfl).bind fun _ u _ hI _ => Safe.pure hI)
  exact ⟨rfl, rfl, rfl, rfl, rfl⟩

/-- An object made for a row, or for an order that becomes pending, enters its state. -/
theorem MgrSafe.enterNew (h : C.MgrSafe) {e : E} (hI : C.Inv s) (he : C.EntityOk s e)
    (hfirst : C.alone → s.heap = []) :
    C.logic.Wp (C.mgr.enterNew e s.heap.length) C.logic.End s (OrderMgr.newObj e s) := by
  have hseg := seg_newObj hI he hfirst
  exact ((h.states _).change hseg.1 (he.state.later hseg.2)).start hseg

/-- Every event keeps the invariant. -/
theorem MgrSafe.eventOk (h : C.MgrSafe) {e : OrderEvt} (hI : C.Inv s)
    (hall : C.logic.Allowed s (.event e)) : C.logic.EventOk e s := by
  intro t p hev
  cases e <;> simp only [program, OrderMgr.program, OrderMgr.event] at hev
  case setOrderPending =>
    split at hev <;> cases hev
    next hinit =>
    refine h.enterNew hI (h.setOrderPending s s.row hinit.2 hI.row) fun ha => ?_
    exact List.isEmpty_iff.1 (hall ha).1
  case load =>
    split at hev <;> cases hev
    exact h.enterNew hI hI.row fun ha => List.isEmpty_iff.1 (hall ha).1
  case tick =>
    cases hev
    exact (safe_dispatch hI fun ref _ hst => (h.states _).onTick ref s hI hst).start (Seg.refl hI)
  case deliver message again =>
    split at hev <;> cases hev
    have hseg : C.logic.Seg s { s with
        messages := if again then s.messages else s.messages.erase message } :=
      seg_sameOrder hI ⟨rfl, rfl, rfl, rfl, rfl⟩
    exact (h.deliver hseg.1).start hseg
  case onChain report =>
    cases hev
    exact (h.onChainCallback (seg_report hI).1 List.mem_cons_self).start (seg_report hI)
  case mqReConnect =>
    cases hev
    exact (safe_processMqReConnect hI).start (Seg.refl hI)
  case queueWaited k =>
    split at hev
    · split at hev <;> cases hev
      next ref _ _ =>
      have hseg : C.logic.Seg s { s with waiting := s.waiting.eraseIdx k } :=
        seg_sameOrder hI ⟨rfl, rfl, rfl, rfl, rfl⟩
      exact (h.onQueueInited ref _ hseg.1).start hseg
    · cases hev
  case retryExternalOnChain =>
    cases hev
    exact (h.retryExternalOnChain s hI).start (Seg.refl hI)
  case retryInternalOnChain =>
    cases hev
    exact (h.retryInternalOnChain s hI).start (Seg.refl hI)
  case serveIpc request =>
    split at hev <;> cases hev
    have hseg : C.logic.Seg s { s with ipcRequests := s.ipcRequests.erase request } :=
      seg_sameOrder hI ⟨rfl, rfl, rfl, rfl, rfl⟩
    exact (h.createOrderObjById hseg.1 fun ha => Bool.false_ne_true (hall ha).1).start hseg
  case setRWKeypair accountType secret =>
    cases hev
    refine seg_sameOrder hI ?_
    unfold OrderStore.setRWKeypair
    split <;> exact ⟨rfl, rfl, rfl, rfl, rfl⟩
  case setExternalKeypair chainName assetType account =>
    cases hev
    refine seg_sameOrder hI ?_
    unfold OrderStore.setExternalKeypair
    simp only
    split <;> exact ⟨rfl, rfl, rfl, rfl, rfl⟩
  -- the other events change neither the order nor its history
  all_goals
    cases hev
    exact seg_sameOrder hI ⟨rfl, rfl, rfl, rfl, rfl⟩

section Runs

variable {ls : List (Label OrderEvt OrderChoice)}
  {c : Pool (OrderStore E) (OrderOp.Ans (E := E) (S := S)) Err OrderProcess}

/-- Every run keeps the invariant. -/
theorem MgrSafe.inv (h : C.MgrSafe) (hI : C.Inv s) (hmany : ¬ C.alone)
    (hrun : C.program.system.run ⟨s, []⟩ ls = some c) : C.Inv c.store := by
  have hall : C.program.system.Meets (Program.Allows C.logic.Allowed) ⟨s, []⟩ ls :=
    (System.meets_true _ _).mono fun _ _ _ _ _ ha => absurd ha hmany
  exact (C.logic.sound (fun _ _ hI hall => h.eventOk hI hall) (Logic.PoolOk.idle hI) hall hrun).inv

/-- The wallet can answer a call that creates a transaction. -/
theorem exists_created {op : OrderOp E S} (env : OrderEnv) (hop : op.creates = true) :
    ∃ txId r t, op.answer env (.text txId) s = some (r, t) ∧ txId ∈ t.created ∧
      t.reports = s.reports := by
  obtain ⟨txId, htxId⟩ :=
    Infinite.exists_notMem_finset (OrderEntity.entityId s.row :: s.created).toFinset
  have hfresh : ¬ (txId ∈ s.created ∨ txId = OrderEntity.entityId s.row) := by
    simp only [List.toFinset_cons, Finset.mem_insert, List.mem_toFinset] at htxId
    exact fun h => htxId h.symm
  have hcreate : s.create txId = some (.ok txId, { s with created := txId :: s.created }) :=
    if_neg hfresh
  cases op with
  | createInternalIncreaseAsset | createInternalTransfer | createExternalTransfer =>
    exact ⟨txId, _, _, hcreate, List.mem_cons_self, rfl⟩
  | _ => cases hop

/-- An order for which an outgoing transaction is about to be created is confirmed. -/
theorem MgrSafe.confirmed_of_pending (h : C.MgrSafe) (hI : C.Inv s) (hmany : ¬ C.alone)
    (hrun : C.program.system.run ⟨s, []⟩ ls = some c)
    {t : Task (OrderStore E) (OrderOp.Ans (E := E) (S := S)) Err OrderProcess} (ht : t ∈ c.tasks)
    (hop : t.op.creates = true) (hreply : t.reply = none) : C.Confirmed c.store := by
  -- the run goes on with the answer to the call
  obtain ⟨n, hn⟩ := List.mem_iff_getElem?.1 ht
  obtain ⟨txId, r, s', hans, hcreated, hreports⟩ := exists_created (s := c.store) C.env hop
  have hstep : C.program.system.step c (.answer n (.text txId)) =
      some ⟨s', c.tasks.set n ⟨t.tag, t.op, t.next, some r⟩⟩ := by
    obtain ⟨tag, op, next, reply⟩ := t
    obtain rfl : reply = none := hreply
    simp only [Program.system, Program.step, hn]
    rw [show C.program.answer op (.text txId) c.store = some (r, s') from hans]
  have hlast : C.program.system.run c [.answer n (.text txId)] =
      some ⟨s', c.tasks.set n ⟨t.tag, t.op, t.next, some r⟩⟩ := by
    rw [System.run_cons, hstep]
    rfl
  have hI' := h.inv hI hmany (System.run_append hrun hlast)
  intro hdev hdeposits
  exact hreports ▸ (hI'.created txId hcreated).2 hdev hdeposits

/-- Where the order has one object and no transaction is replaced, one transaction is live. -/
theorem MgrSafe.oneLive (h : C.MgrSafe) (hI : C.Inv s) (ha : C.alone)
    (honce : C.program.system.Meets (Program.Allows fun s a => takenUpOnce s a = true) ⟨s, []⟩ ls)
    (hnone : C.program.system.Meets
      (Program.Allows fun s a => replacesNone C.transfers s a = true) ⟨s, []⟩ ls)
    (hrun : C.program.system.run ⟨s, []⟩ ls = some c) :
    c.store.OneLive C.transfers.outgoing := by
  have hall : C.program.system.Meets (Program.Allows C.logic.Allowed) ⟨s, []⟩ ls :=
    (honce.and hnone).mono fun _ _ hl a haction _ => ⟨hl.1 a haction, hl.2 a haction⟩
  exact (C.logic.sound (fun _ _ hI hall => h.eventOk hI hall)
    (Logic.PoolOk.idle hI) hall hrun).inv.oneLive ha

end Runs

end OrderCase

end CotServer
