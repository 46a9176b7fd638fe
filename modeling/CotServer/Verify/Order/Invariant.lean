import CotServer.Model.Order.Worker
import CotServer.Theory.RelyGuarantee

/-!
# The invariant of an order

An order has an incoming transfer, which the wallet confirms, and an outgoing one, which the order
worker creates. For a recharge these are the deposit on the external chain and the mint on the
internal chain, for a redemption the burn and the payout. `OrderCase.Inv` links the state and the
two transaction ids of the order, wherever they are kept, to the history of reports and create
calls, and `OrderCase.logic` is the rely-guarantee logic with this invariant.

The field that holds the id of the outgoing transaction is a placeholder, the order id, until the
wallet has created it. With `alone`, the logic speaks about runs in which the order has one logic
object, and in which no create call returns after another one has put its transaction there.
-/

namespace CotServer

open Async

/-- The two transfers of a kind of order. -/
structure Transfers (E S : Type) [OrderEntity E S] where
  incoming : ChainSide
  outgoing : ChainSide
  inTx : E → JsString
  outTx : E → JsString
  /-- The order waits for its incoming transfer. -/
  deposits : E → Bool
  /-- The states that come after the confirmation of the incoming transfer. -/
  confirmed : S → Bool
  success : S
  setOutTx : JsString → E → E
  entityId_setOutTx : ∀ txId e, OrderEntity.entityId (setOutTx txId e) = OrderEntity.entityId e
  state_setOutTx : ∀ txId e, OrderEntity.state (setOutTx txId e) = OrderEntity.state e
  inTx_setOutTx : ∀ txId e, inTx (setOutTx txId e) = inTx e
  outTx_setOutTx : ∀ txId e, outTx (setOutTx txId e) = txId
  deposits_setOutTx : ∀ txId e, deposits (setOutTx txId e) = deposits e
  inTx_setState : ∀ st e, inTx (OrderEntity.setState st e) = inTx e
  outTx_setState : ∀ st e, outTx (OrderEntity.setState st e) = outTx e
  deposits_setState : ∀ st e, deposits (OrderEntity.setState st e) = deposits e

attribute [simp] OrderEntity.state_setState OrderEntity.entityId_setState
  Transfers.inTx_setState Transfers.outTx_setState Transfers.deposits_setState
  Transfers.entityId_setOutTx Transfers.state_setOutTx Transfers.inTx_setOutTx
  Transfers.outTx_setOutTx Transfers.deposits_setOutTx

/-- The calls that create an outgoing transaction. -/
def OrderOp.creates {E S : Type} : OrderOp E S → Bool
  | createInternalIncreaseAsset _ | createInternalTransfer _ | createExternalTransfer _ => true
  | _ => false

/-- The calls that leave the order and its history alone. -/
def OrderOp.neutral {E S : Type} : OrderOp E S → Bool
  | save _ | saveState _ | update .. => false
  | op => !op.creates

/-- The order and its history are the same in both stores. -/
structure OrderStore.SameOrder {E : Type} (s t : OrderStore E) : Prop where
  row : t.row = s.row
  heap : t.heap = s.heap
  created : t.created = s.created
  started : t.started = s.started
  reports : t.reports = s.reports

/-- The order wherever it is kept: the row, and the logic objects. -/
def OrderStore.values {E : Type} (s : OrderStore E) : List E := s.row :: s.heap.map (·.entity)

/-- At most one of the transactions created for the order is started and not reported failed. -/
def OrderStore.OneLive {E : Type} (side : ChainSide) (s : OrderStore E) : Prop :=
  ∀ txId ∈ s.started, txId ∈ s.created → ⟨side, false, txId⟩ ∉ s.reports →
    ∀ txId' ∈ s.started, txId' ∈ s.created → ⟨side, false, txId'⟩ ∉ s.reports → txId = txId'

/-- Nothing has been done for the order yet. The queue, the config and the rest are arbitrary. -/
structure OrderStore.Fresh {E : Type} (s : OrderStore E) : Prop where
  heap : s.heap = []
  created : s.created = []
  started : s.started = []

/-- An order, its manager, and the runs to consider. -/
structure OrderCase (E S : Type) [OrderEntity E S] [DecidableEq S] where
  mgr : OrderMgr E S
  env : OrderEnv
  transfers : Transfers E S
  /-- The order as it was created. -/
  order : E
  alone : Prop

variable {E S : Type} [OrderEntity E S] [DecidableEq S]

theorem OrderStore.SameOrder.refl (s : OrderStore E) : s.SameOrder s := ⟨rfl, rfl, rfl, rfl, rfl⟩

theorem OrderOp.answer_neutral {env : OrderEnv} {op : OrderOp E S} (hop : op.neutral = true)
    {o : OrderChoice} {s t : OrderStore E} {r : Except Err op.Ans}
    (h : op.answer env o s = some (r, t)) : s.SameOrder t := by
  cases o with
  | fails e => cases h; exact .refl s
  | _ =>
    cases op <;> simp only [OrderOp.neutral, OrderOp.creates, Bool.not_true, Bool.false_eq_true]
      at hop <;> simp only [OrderOp.answer, OrderStore.resetTrans, reduceCtorEq] at h
    all_goals (try split at h) <;> cases h <;> exact ⟨rfl, rfl, rfl, rfl, rfl⟩

namespace OrderCase

variable (C : OrderCase E S)

abbrev program : @Program (OrderStore E) (OrderOp E S) OrderOp.Ans Err OrderEvt OrderChoice
    OrderProcess := C.mgr.program C.env

def orderId : JsString := OrderEntity.entityId C.order

/-! ## The invariant -/

/-- The incoming transfer has been reported successful, where the order waits for one. -/
def Confirmed (s : OrderStore E) : Prop :=
  C.env.devTest = false → C.transfers.deposits C.order = true →
    ⟨C.transfers.incoming, true, C.transfers.inTx C.order⟩ ∈ s.reports

/-- An outgoing transaction has been reported successful, or the placeholder has. -/
def Paid (s : OrderStore E) : Prop :=
  C.env.devTest = false → ∃ txId, ⟨C.transfers.outgoing, true, txId⟩ ∈ s.reports ∧
    (txId = C.orderId ∨ txId ∈ s.created)

def Failed (s : OrderStore E) (txId : JsString) : Prop :=
  ⟨C.transfers.outgoing, false, txId⟩ ∈ s.reports

/-- The transaction has failed, or the order has its id. -/
def Settled (s : OrderStore E) (txId : JsString) : Prop :=
  C.Failed s txId ∨ ∃ obj ∈ s.heap, C.transfers.outTx obj.entity = txId

/-- The transaction may be started. -/
def Startable (s : OrderStore E) (txId : JsString) : Prop :=
  C.alone → txId ≠ C.orderId → C.Settled s txId

structure StateOk (s : OrderStore E) (st : S) : Prop where
  confirmed : C.transfers.confirmed st = true → C.Confirmed s
  paid : st = C.transfers.success → C.Paid s

structure EntityOk (s : OrderStore E) (e : E) : Prop where
  entityId : OrderEntity.entityId e = C.orderId
  inTx : C.transfers.inTx e = C.transfers.inTx C.order
  deposits : C.transfers.deposits e = C.transfers.deposits C.order
  outTx : C.transfers.outTx e = C.orderId ∨ C.transfers.outTx e ∈ s.created
  state : C.StateOk s (OrderEntity.state e)

structure Inv (s : OrderStore E) : Prop where
  row : C.EntityOk s s.row
  heap : ∀ obj ∈ s.heap, C.EntityOk s obj.entity
  created : ∀ txId ∈ s.created, txId ≠ C.orderId ∧ C.Confirmed s
  alone : C.alone → s.heap.length ≤ 1
  started : ∀ txId ∈ s.started, C.Startable s txId

/-- The history grows; what has been settled stays so. -/
structure Rel (s t : OrderStore E) : Prop where
  reports : s.reports ⊆ t.reports
  created : s.created ⊆ t.created
  heap : s.heap.length ≤ t.heap.length
  settled : C.alone → ∀ txId, txId ≠ C.orderId → C.Settled s txId → C.Settled t txId

/-- The order's logic object is made once. -/
def takenUpOnce : OrderStore E → Action (OrderOp.Ans (E := E) (S := S)) Err OrderEvt OrderChoice →
    Bool
  | s, .event .setOrderPending | s, .event .load => s.heap.isEmpty
  | _, .event (.serveIpc _) => false
  | _, _ => true

/-- A create call returns while the order has the placeholder, or a transaction that has failed. -/
def replacesNone (K : Transfers E S) : OrderStore E →
    Action (OrderOp.Ans (E := E) (S := S)) Err OrderEvt OrderChoice → Bool
  | s, .resume op (.ok _) =>
    !op.creates || s.heap.all fun obj => K.outTx obj.entity = OrderEntity.entityId obj.entity ∨
      ⟨K.outgoing, false, K.outTx obj.entity⟩ ∈ s.reports
  | _, _ => true

/-- The logic of an order. -/
def logic : Logic C.program where
  Inv := C.Inv
  Rel := C.Rel
  Allowed s a := C.alone → takenUpOnce s a = true ∧ replacesNone C.transfers s a = true
  refl _ := ⟨fun _ h => h, fun _ h => h, Nat.le_refl _, fun _ _ _ h => h⟩
  trans h h' :=
    ⟨fun _ hr => h'.reports (h.reports hr), fun _ ht => h'.created (h.created ht),
      Nat.le_trans h.heap h'.heap,
      fun ha txId hid hs => h'.settled ha txId hid (h.settled ha txId hid hs)⟩

variable {C} {s t : OrderStore E}

/-! ## Facts that last -/

theorem Confirmed.later (h : C.Confirmed s) (hR : C.Rel s t) : C.Confirmed t :=
  fun hdev hdep => hR.reports (h hdev hdep)

theorem Paid.later (h : C.Paid s) (hR : C.Rel s t) : C.Paid t := by
  intro hdev
  obtain ⟨txId, hreport, hid⟩ := h hdev
  exact ⟨txId, hR.reports hreport, hid.imp_right fun hcreated => hR.created hcreated⟩

theorem StateOk.later {st : S} (h : C.StateOk s st) (hR : C.Rel s t) : C.StateOk t st :=
  ⟨fun hst => (h.confirmed hst).later hR, fun hst => (h.paid hst).later hR⟩

theorem EntityOk.later {e : E} (h : C.EntityOk s e) (hR : C.Rel s t) : C.EntityOk t e :=
  ⟨h.entityId, h.inTx, h.deposits, h.outTx.imp_right fun hcreated => hR.created hcreated,
    h.state.later hR⟩

theorem Inv.value {e : E} (hI : C.Inv s) (he : e ∈ s.values) : C.EntityOk s e := by
  rcases List.mem_cons.1 he with rfl | he
  · exact hI.row
  · obtain ⟨obj, hobj, rfl⟩ := List.mem_map.1 he
    exact hI.heap obj hobj

theorem EntityOk.setState {e : E} {st : S} (h : C.EntityOk s e) (hst : C.StateOk s st) :
    C.EntityOk s (OrderEntity.setState st e) :=
  ⟨by simpa using h.entityId, by simpa using h.inTx, by simpa using h.deposits,
    by simpa using h.outTx, by simpa using hst⟩

theorem EntityOk.setOutTx {e : E} {txId : JsString} (h : C.EntityOk s e)
    (hid : txId = C.orderId ∨ txId ∈ s.created) : C.EntityOk s (C.transfers.setOutTx txId e) :=
  ⟨by simpa using h.entityId, by simpa using h.inTx, by simpa using h.deposits,
    by simpa using hid, by simpa using h.state⟩

theorem Startable.later {txId : JsString} (h : C.Startable s txId) (hR : C.Rel s t) :
    C.Startable t txId := fun ha hid => hR.settled ha txId hid (h ha hid)

theorem Inv.object {ref : Ref} {obj : OrderObj E} (hI : C.Inv s) (h : s.heap[ref]? = some obj) :
    C.EntityOk s obj.entity := hI.heap obj (List.mem_of_getElem? h)

/-- The order's current transaction may be started. -/
theorem startable_of_object {ref : Ref} {obj : OrderObj E} (h : s.heap[ref]? = some obj) :
    C.Startable s (C.transfers.outTx obj.entity) :=
  fun _ _ => .inr ⟨obj, List.mem_of_getElem? h, rfl⟩

/-! ## Segments -/

/-- While the logic objects stay as they are, the history may grow. -/
theorem rel_grow (hheap : t.heap = s.heap) (hreports : s.reports ⊆ t.reports)
    (hcreated : s.created ⊆ t.created) : C.Rel s t := by
  refine ⟨hreports, hcreated, Nat.le_of_eq (congrArg List.length hheap.symm), ?_⟩
  intro _ txId _ hsettled
  rcases hsettled with hfailed | hobj
  · exact .inl (hreports hfailed)
  · refine .inr ?_
    rwa [hheap]

/-- A step is fine when all that is new after it is. -/
theorem seg_intro (hI : C.Inv s) (hR : C.Rel s t) (hrow : t.row = s.row ∨ C.EntityOk s t.row)
    (hheap : ∀ obj ∈ t.heap, obj ∈ s.heap ∨ C.EntityOk s obj.entity)
    (hcreated : ∀ txId ∈ t.created, txId ∈ s.created ∨ txId ≠ C.orderId ∧ C.Confirmed s)
    (hlength : C.alone → t.heap.length ≤ 1)
    (hstarted : ∀ txId ∈ t.started, txId ∈ s.started ∨ C.Startable s txId) :
    C.logic.Seg s t := by
  refine ⟨⟨?_, ?_, ?_, hlength, ?_⟩, hR⟩
  · rcases hrow with hsame | hnew
    · rw [hsame]
      exact hI.row.later hR
    · exact hnew.later hR
  · intro obj hobj
    rcases hheap obj hobj with hold | hnew
    · exact (hI.heap obj hold).later hR
    · exact hnew.later hR
  · intro txId ht
    have hok : txId ≠ C.orderId ∧ C.Confirmed s := (hcreated txId ht).elim (hI.created txId) id
    exact ⟨hok.1, hok.2.later hR⟩
  · intro txId hstart
    rcases hstarted txId hstart with hold | hnew
    · exact (hI.started txId hold).later hR
    · exact hnew.later hR

theorem seg_sameOrder (hI : C.Inv s) (h : s.SameOrder t) : C.logic.Seg s t := by
  obtain ⟨hrow, hheap, hcreated, hstarted, hreports⟩ := h
  refine seg_intro hI (rel_grow hheap ?_ ?_) (.inl hrow) ?_ ?_ ?_ ?_
  · simp [hreports]
  · simp [hcreated]
  · intro obj hobj
    exact .inl (hheap ▸ hobj)
  · intro txId ht
    exact .inl (hcreated ▸ ht)
  · intro ha
    rw [hheap]
    exact hI.alone ha
  · intro txId hstart
    exact .inl (hstarted ▸ hstart)

theorem seg_row {e : E} (hI : C.Inv s) (he : C.EntityOk s e) :
    C.logic.Seg s { s with row := e } := by
  have hR : C.Rel s { s with row := e } := rel_grow rfl (fun _ h => h) fun _ h => h
  exact seg_intro hI hR (.inr he) (fun _ => .inl) (fun _ => .inl) hI.alone fun _ => .inl

/-- The object at `ref` becomes `f obj`; its transaction is replaced only when that is settled. -/
theorem seg_modify {ref : Ref} {f : OrderObj E → OrderObj E} (hI : C.Inv s)
    (hok : ∀ obj, s.heap[ref]? = some obj → C.EntityOk s (f obj).entity)
    (hout : C.alone → ∀ obj, s.heap[ref]? = some obj →
      C.transfers.outTx (f obj).entity = C.transfers.outTx obj.entity ∨
        C.transfers.outTx obj.entity = C.orderId ∨ C.Failed s (C.transfers.outTx obj.entity)) :
    C.logic.Seg s { s with heap := s.heap.modify ref f } := by
  have hsettled : C.alone → ∀ txId, txId ≠ C.orderId → C.Settled s txId →
      C.Settled { s with heap := s.heap.modify ref f } txId := by
    rintro ha txId hid (hfailed | ⟨obj, hobj, rfl⟩)
    · exact .inl hfailed
    obtain ⟨i, hi⟩ := List.mem_iff_getElem?.1 hobj
    by_cases hir : i = ref
    · subst hir
      rcases hout ha obj hi with hsame | hplaceholder | hfailed
      · refine .inr ⟨f obj, List.mem_iff_getElem?.2 ⟨i, ?_⟩, hsame⟩
        simp [hi]
      · exact absurd hplaceholder hid
      · exact .inl hfailed
    · refine .inr ⟨obj, List.mem_iff_getElem?.2 ⟨i, ?_⟩, rfl⟩
      simpa [Ne.symm hir] using hi
  have hR : C.Rel s { s with heap := s.heap.modify ref f } :=
    ⟨fun _ h => h, fun _ h => h, by simp, hsettled⟩
  refine seg_intro hI hR (.inl rfl) ?_ (fun _ => .inl) ?_ fun _ => .inl
  · intro obj' hobj'
    obtain ⟨i, hi⟩ := List.mem_iff_getElem?.1 hobj'
    rw [List.getElem?_modify] at hi
    obtain ⟨obj, hobj, hobj'⟩ := Option.map_eq_some_iff.1 hi
    split at hobj'
    · next href =>
      subst href hobj'
      exact .inr (hok obj hobj)
    · subst hobj'
      exact .inl (List.mem_of_getElem? hobj)
  · intro ha
    simpa using hI.alone ha

/-- A start is put on record. -/
theorem seg_started {txId : JsString} (hI : C.Inv s) (h : C.Startable s txId) :
    C.logic.Seg s { s with started := txId :: s.started } := by
  have hR : C.Rel s { s with started := txId :: s.started } :=
    rel_grow rfl (fun _ h => h) fun _ h => h
  refine seg_intro hI hR (.inl rfl) (fun _ => .inl) (fun _ => .inl) hI.alone ?_
  intro txId' hstart
  rcases List.mem_cons.1 hstart with rfl | hold
  · exact .inr h
  · exact .inl hold

/-- The wallet creates a transaction that it has not created before. -/
theorem seg_create {txId : JsString} {r : Except Err JsString} (hI : C.Inv s)
    (hconfirmed : C.Confirmed s) (h : s.create txId = some (r, t)) :
    C.logic.Seg s t ∧ r = .ok txId ∧ txId ∈ t.created := by
  unfold OrderStore.create at h
  split at h
  · cases h
  next hfresh =>
  obtain ⟨hnew, hid⟩ := not_or.1 hfresh
  cases h
  have hR : C.Rel s { s with created := txId :: s.created } :=
    rel_grow rfl (fun _ h => h) fun _ h => List.mem_cons_of_mem txId h
  refine ⟨?_, rfl, List.mem_cons_self⟩
  refine seg_intro hI hR (.inl rfl) (fun _ => .inl) ?_ hI.alone fun _ => .inl
  intro txId' ht
  rcases List.mem_cons.1 ht with rfl | hold
  · exact .inr ⟨hI.row.entityId ▸ hid, hconfirmed⟩
  · exact .inl hold

theorem seg_report {report : Report} (hI : C.Inv s) :
    C.logic.Seg s { s with reports := report :: s.reports } := by
  have hR : C.Rel s { s with reports := report :: s.reports } :=
    rel_grow rfl (fun _ h => List.mem_cons_of_mem report h) fun _ h => h
  exact seg_intro hI hR (.inl rfl) (fun _ => .inl) (fun _ => .inl) hI.alone fun _ => .inl

theorem seg_newObj {e : E} (hI : C.Inv s) (he : C.EntityOk s e) (hfirst : C.alone → s.heap = []) :
    C.logic.Seg s (OrderMgr.newObj e s) := by
  have hsettled : ∀ txId, C.Settled s txId → C.Settled (OrderMgr.newObj e s) txId := by
    rintro txId (hfailed | ⟨obj, hobj, hout⟩)
    · exact .inl hfailed
    · exact .inr ⟨obj, List.mem_append_left _ hobj, hout⟩
  have hR : C.Rel s (OrderMgr.newObj e s) :=
    ⟨fun _ h => h, fun _ h => h, by simp [OrderMgr.newObj], fun _ txId _ => hsettled txId⟩
  refine seg_intro hI hR (.inl rfl) ?_ (fun _ => .inl) ?_ fun _ => .inl
  · intro obj hobj
    rcases List.mem_append.1 hobj with hold | hnew
    · exact .inl hold
    · rw [List.mem_singleton.1 hnew]
      exact .inr he
  · intro ha
    simp [OrderMgr.newObj, hfirst ha]

/-- An order that has just been created. -/
theorem inv_new (hrow : s.row = C.order) (hfresh : s.Fresh)
    (hout : C.transfers.outTx C.order = C.orderId)
    (hconfirmed : C.transfers.confirmed (OrderEntity.state C.order) = false)
    (hsuccess : OrderEntity.state C.order ≠ C.transfers.success) : C.Inv s where
  row := by
    rw [hrow]
    exact ⟨rfl, rfl, rfl, .inl hout, fun h => absurd (hconfirmed.symm.trans h) Bool.false_ne_true,
      fun h => absurd h hsuccess⟩
  heap := by simp [hfresh.heap]
  created := by simp [hfresh.created]
  alone := by simp [hfresh.heap]
  started := by simp [hfresh.started]

/-- With one object there is one live transaction. -/
theorem Inv.oneLive (hI : C.Inv s) (ha : C.alone) : s.OneLive C.transfers.outgoing := by
  intro txId h hcreated hlive txId' h' hcreated' hlive'
  have hlength := hI.alone ha
  obtain hfailed | ⟨obj, hobj, hout⟩ := hI.started txId h ha (hI.created txId hcreated).1
  · exact absurd hfailed hlive
  obtain hfailed | ⟨obj', hobj', hout'⟩ := hI.started txId' h' ha (hI.created txId' hcreated').1
  · exact absurd hfailed hlive'
  -- both are the transaction of the only object
  match hheap : s.heap with
  | [] => rw [hheap] at hobj; exact absurd hobj List.not_mem_nil
  | [only] =>
    rw [hheap, List.mem_singleton] at hobj hobj'
    rw [← hout, ← hout', hobj, hobj']
  | _ :: _ :: _ => rw [hheap] at hlength; simp at hlength

end OrderCase

end CotServer
