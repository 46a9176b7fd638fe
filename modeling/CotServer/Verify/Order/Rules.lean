import CotServer.Verify.Order.Invariant

/-!
# Rules for the functions of the order worker

Each awaited call and each function of the logic object has one rule. `StateSafe` says that the
hooks and handlers of a state keep the invariant; when it holds for all states, every event of the
order worker keeps it (`OrderMgr.Safe.eventOk`), and by soundness so does every run.
-/

namespace CotServer

open Async Logic

namespace OrderCase

variable {E S : Type} [OrderEntity E S] [DecidableEq S]
variable {C : OrderCase E S} {s : OrderStore E}

variable (C) in
/-- The function keeps the invariant. -/
def Safe {α : Type} (p : OrderAsync E S α) (s : OrderStore E) : Prop :=
  C.logic.Triple p s fun _ _ => True

theorem Safe.pure {α : Type} {a : α} (hI : C.Inv s) :
    C.Safe (Pure.pure a) s := triple_pure hI trivial

/-! ## Awaited calls -/

theorem safe_neutral {op : OrderOp E S} (hI : C.Inv s) (hop : op.neutral = true) :
    C.Safe (call op) s := by
  refine triple_call (G := fun _ _ => True) hI (fun s₁ _ hI₁ o r s₂ hans _ => ?_)
    fun _ _ _ _ _ _ _ => trivial
  exact ⟨seg_sameOrder hI₁ (op.answer_neutral hop hans), trivial⟩

theorem triple_isDevTest (hI : C.Inv s) :
    C.logic.Triple (call (OrderOp.isDevTest : OrderOp E S)) s fun b _ => b = C.env.devTest := by
  refine triple_call (G := fun r _ => ∀ b, r = .ok b → b = C.env.devTest) hI
    (fun s₁ _ hI₁ o r s₂ hans _ => ⟨seg_sameOrder hI₁ (OrderOp.answer_neutral rfl hans), ?_⟩)
    fun b _ _ hG _ _ _ => hG b rfl
  rintro b rfl
  cases o <;> cases hans
  rfl

theorem triple_findOneByForce {state : Option S} (hI : C.Inv s) :
    C.logic.Triple (call (OrderOp.findOneByForce state : OrderOp E S)) s
      fun e t => C.EntityOk t e := by
  refine triple_call (G := fun r t => ∀ e, r = .ok e → C.EntityOk t e) hI
    (fun s₁ _ hI₁ o r s₂ hans _ => ⟨seg_sameOrder hI₁ (OrderOp.answer_neutral rfl hans), ?_⟩)
    fun e _ _ hG hR _ _ => (hG e rfl).later hR
  rintro e rfl
  cases o <;> simp only [program, OrderMgr.program, OrderOp.answer] at hans
  case done =>
    split at hans <;> cases hans
    exact hI₁.row
  all_goals cases hans

theorem safe_save {e : E} (hI : C.Inv s) (he : C.EntityOk s e) :
    C.Safe (call (OrderOp.save e : OrderOp E S)) s := by
  refine triple_call (G := fun _ _ => True) hI (fun s₁ hR hI₁ o r s₂ hans _ => ⟨?_, trivial⟩)
    fun _ _ _ _ _ _ _ => trivial
  cases o <;> cases hans
  · exact Seg.refl hI₁
  · exact seg_row hI₁ (he.later hR)

theorem safe_saveState {st : S} (hI : C.Inv s) (hst : C.StateOk s st) :
    C.Safe (call (OrderOp.saveState st : OrderOp E S)) s := by
  refine triple_call (G := fun _ _ => True) hI (fun s₁ hR hI₁ o r s₂ hans _ => ⟨?_, trivial⟩)
    fun _ _ _ _ _ _ _ => trivial
  cases o <;> cases hans
  · exact Seg.refl hI₁
  · exact seg_row hI₁ (hI₁.row.setState (hst.later hR))

theorem safe_update {state newState : S} (hI : C.Inv s)
    (hst : ∀ t, C.StateOk t state → C.StateOk t newState) :
    C.Safe (call (OrderOp.update state newState : OrderOp E S)) s := by
  refine triple_call (G := fun _ _ => True) hI (fun s₁ hR hI₁ o r s₂ hans _ => ⟨?_, trivial⟩)
    fun _ _ _ _ _ _ _ => trivial
  cases o <;> simp only [program, OrderMgr.program, OrderOp.answer] at hans
  case fails e =>
    cases hans
    exact Seg.refl hI₁
  case done =>
    split at hans
    · next hrow =>
      cases hans
      exact seg_row hI₁ (hI₁.row.setState (hst s₁ (hrow ▸ hI₁.row.state)))
    · cases hans
      exact Seg.refl hI₁
  all_goals cases hans

variable (C) in
/-- What a create call gives back: a transaction on record, and none to be replaced. -/
def Created (txId : JsString) (t : OrderStore E) : Prop :=
  txId ∈ t.created ∧ (C.alone → ∀ obj ∈ t.heap,
    C.transfers.outTx obj.entity = OrderEntity.entityId obj.entity ∨
      C.Failed t (C.transfers.outTx obj.entity))

/-- The answer to a create call. -/
theorem answers_create {o : OrderChoice} {r : Except Err JsString} {t : OrderStore E}
    (hI : C.Inv s) (hconfirmed : C.Confirmed s)
    (h : (match o with
      | .fails e => some (.error e, s)
      | .text txId => s.create txId
      | _ => none) = some (r, t)) :
    C.logic.Seg s t ∧ ∀ txId, r = .ok txId → txId ∈ t.created := by
  cases o <;> simp only [reduceCtorEq] at h
  case fails e =>
    cases h
    exact ⟨Seg.refl hI, fun _ hr => (nomatch hr)⟩
  case text txId =>
    obtain ⟨hseg, rfl, hcreated⟩ := seg_create hI hconfirmed h
    refine ⟨hseg, ?_⟩
    rintro _ ⟨⟩
    exact hcreated

/-- A create call that goes on. -/
theorem created_of_resumed {op : OrderOp E S} (hop : op.creates = true) {txId : JsString}
    {r : op.Ans} {t u : OrderStore E} (hcreated : txId ∈ t.created) (hR : C.Rel t u)
    (hall : C.logic.Allowed u (.resume op (.ok r))) : C.Created txId u := by
  refine ⟨hR.created hcreated, fun ha obj hobj => ?_⟩
  have hnone := (hall ha).2
  simp only [replacesNone, hop, Bool.not_true, Bool.false_or, List.all_eq_true,
    decide_eq_true_eq] at hnone
  exact hnone obj hobj

theorem triple_createInternalIncreaseAsset {req : IncreaseAssetReq} (hI : C.Inv s)
    (hconfirmed : C.Confirmed s) :
    C.logic.Triple (call (OrderOp.createInternalIncreaseAsset req : OrderOp E S)) s C.Created :=
  triple_call (G := fun r t => ∀ txId, r = .ok txId → txId ∈ t.created) hI
    (fun _ hR hI₁ o _ _ hans _ =>
      answers_create (o := o) hI₁ (hconfirmed.later hR) (by cases o <;> exact hans))
    fun txId _ _ hG hR _ hall => created_of_resumed rfl (hG txId rfl) hR hall

theorem triple_createInternalTransfer {req : InternalTransferReq} (hI : C.Inv s)
    (hconfirmed : C.Confirmed s) :
    C.logic.Triple (call (OrderOp.createInternalTransfer req : OrderOp E S)) s C.Created :=
  triple_call (G := fun r t => ∀ txId, r = .ok txId → txId ∈ t.created) hI
    (fun _ hR hI₁ o _ _ hans _ =>
      answers_create (o := o) hI₁ (hconfirmed.later hR) (by cases o <;> exact hans))
    fun txId _ _ hG hR _ hall => created_of_resumed rfl (hG txId rfl) hR hall

theorem triple_createExternalTransfer {req : ExternalTransferReq} (hI : C.Inv s)
    (hconfirmed : C.Confirmed s) :
    C.logic.Triple (call (OrderOp.createExternalTransfer req : OrderOp E S)) s C.Created :=
  triple_call (G := fun r t => ∀ txId, r = .ok txId → txId ∈ t.created) hI
    (fun _ hR hI₁ o _ _ hans _ =>
      answers_create (o := o) hI₁ (hconfirmed.later hR) (by cases o <;> exact hans))
    fun txId _ _ hG hR _ hall => created_of_resumed rfl (hG txId rfl) hR hall

/-! ## The logic object -/

/-- An update that leaves the order and its history alone. -/
theorem safe_update_sameOrder {f : OrderStore E → OrderStore E} (hI : C.Inv s)
    (hf : ∀ t : OrderStore E, t.SameOrder (f t)) : C.Safe (S := S) (Async.update f) s :=
  triple_update (seg_sameOrder hI (hf s)) trivial

theorem triple_getObj {ref : Ref} (hI : C.Inv s) :
    C.logic.Triple (OrderObj.getObj ref : OrderAsync E S _) s
      fun obj t => s = t ∧ s.heap[ref]? = some obj := by
  refine triple_store ?_
  split
  · next obj hobj => exact triple_pure hI ⟨rfl, hobj⟩
  · exact triple_throw hI

theorem triple_modifyObj {ref : Ref} {f : OrderObj E → OrderObj E} (hI : C.Inv s)
    (hok : ∀ obj, s.heap[ref]? = some obj → C.EntityOk s (f obj).entity)
    (hout : C.alone → ∀ obj, s.heap[ref]? = some obj →
      C.transfers.outTx (f obj).entity = C.transfers.outTx obj.entity ∨
        C.transfers.outTx obj.entity = C.orderId ∨ C.Failed s (C.transfers.outTx obj.entity)) :
    C.logic.Triple (OrderObj.modifyObj ref f : OrderAsync E S Unit) s
      fun _ t => t = { s with heap := s.heap.modify ref f } :=
  triple_update (seg_modify hI hok hout) rfl

/-- An update of the fields that the invariant does not mention. -/
theorem safe_modifyObj {ref : Ref} {f : OrderObj E → OrderObj E} (hI : C.Inv s)
    (hf : ∀ obj, (f obj).entity = obj.entity) : C.Safe (S := S) (OrderObj.modifyObj ref f) s := by
  refine (triple_modifyObj hI (fun obj hobj => ?_) fun _ obj _ => ?_).mono fun _ _ _ _ _ => trivial
  · rw [hf]
    exact hI.object hobj
  · rw [hf]
    exact .inl rfl

/-- A created transaction takes the place of the placeholder. -/
theorem triple_recordTx {ref : Ref} {txId : JsString} {f : OrderObj E → OrderObj E}
    (hf : ∀ obj, (f obj).entity = C.transfers.setOutTx txId obj.entity) (hI : C.Inv s)
    (href : ref < s.heap.length) (hcreated : C.Created txId s) :
    C.logic.Triple (OrderObj.modifyObj ref f : OrderAsync E S Unit) s
      fun _ t => C.Startable t txId := by
  refine (triple_modifyObj hI (fun obj hobj => ?_) fun ha obj hobj => ?_).mono ?_
  · rw [hf]
    exact (hI.object hobj).setOutTx (.inr hcreated.1)
  · refine .inr ((hcreated.2 ha obj (List.mem_of_getElem? hobj)).imp_left fun hplaceholder => ?_)
    exact hplaceholder.trans (hI.object hobj).entityId
  · rintro _ _ - - rfl - -
    refine .inr ⟨f s.heap[ref], List.mem_iff_getElem?.2 ⟨ref, ?_⟩, ?_⟩
    · simp [List.getElem?_eq_getElem href]
    · rw [hf, C.transfers.outTx_setOutTx]

/-- The placeholder takes the place of a transaction that has failed. -/
theorem safe_acceptFailure {ref : Ref} {txId : JsString} {f : OrderObj E → OrderObj E}
    (hf : ∀ obj, (f obj).entity =
      C.transfers.setOutTx (OrderEntity.entityId obj.entity) obj.entity) (hI : C.Inv s)
    (hfailed : ∀ obj, s.heap[ref]? = some obj → C.Failed s (C.transfers.outTx obj.entity)) :
    C.Safe (S := S) (OrderObj.acceptFailure ref txId f) s := by
  have hseg : C.logic.Seg s { s with heap := s.heap.modify ref f } := by
    refine seg_modify hI (fun obj hobj => ?_) fun _ obj hobj => .inr (.inr (hfailed obj hobj))
    rw [hf]
    exact (hI.object hobj).setOutTx (.inl (hI.object hobj).entityId)
  have hrecord := seg_sameOrder hseg.1
    (t := { s with heap := s.heap.modify ref f, accepted := (ref, txId) :: s.accepted })
    ⟨rfl, rfl, rfl, rfl, rfl⟩
  exact triple_update ⟨hrecord.1, C.logic.trans hseg.2 hrecord.2⟩ trivial

theorem safe_start {txId : JsString} (hI : C.Inv s) (h : C.Startable s txId) :
    C.Safe (S := S) (Async.update fun s => { s with started := txId :: s.started }) s :=
  triple_update (seg_started hI h) trivial

theorem safe_saveObj {ref : Ref} (hI : C.Inv s) : C.Safe (S := S) (OrderObj.save ref) s := by
  refine (triple_getObj hI).bind fun obj _ _ _ h => ?_
  obtain ⟨rfl, hobj⟩ := h
  exact safe_save hI (hI.object hobj)

theorem safe_saveObjState {ref : Ref} (hI : C.Inv s) :
    C.Safe (S := S) (OrderObj.saveState ref) s := by
  refine (triple_getObj hI).bind fun obj _ _ _ h => ?_
  obtain ⟨rfl, hobj⟩ := h
  exact safe_saveState hI (hI.object hobj).state

theorem safe_close {ref : Ref} (hI : C.Inv s) : C.Safe (S := S) (OrderObj.close ref) s := by
  refine (safe_saveObj hI).bind fun _ t _ hI _ => safe_update_sameOrder hI fun u => ?_
  split
  · exact ⟨rfl, rfl, rfl, rfl, rfl⟩
  · exact .refl u

theorem safe_publishOrderEvent {message : OrderMessage} (hI : C.Inv s) :
    C.Safe (S := S) (publishOrderEvent message) s := safe_neutral hI rfl

/-! ## States -/

variable (C) in
/-- The hooks and handlers of a state keep the invariant. -/
structure StateSafe (st : S) (state : OrderState E S) : Prop where
  enter : ∀ ref s, C.Inv s → C.StateOk s st → C.Safe (state.enter ref) s
  onTick : ∀ ref s, C.Inv s → C.StateOk s st → C.Safe (state.onTick ref) s
  onToTxStartCallback : ∀ ref s, C.Inv s → C.StateOk s st →
    C.Safe (state.onToTxStartCallback ref) s
  onInternalChainTryTransferCallback : ∀ ref accountType s, C.Inv s → C.StateOk s st →
    C.Safe (state.onInternalChainTryTransferCallback ref accountType) s
  onChainCallback : ∀ side success ref txId s, C.Inv s → C.StateOk s st →
    ⟨side, success, txId⟩ ∈ s.reports → C.Safe (state.onChainCallback side success ref txId) s

/-- A state that overrides nothing. -/
theorem stateSafe_base (st : S) : C.StateSafe st {} where
  enter _ _ hI _ := (Safe.pure hI).bind fun _ _ _ hI _ => (Safe.pure hI).bind
    fun _ _ _ hI _ => Safe.pure hI
  onTick _ _ hI _ := Safe.pure hI
  onToTxStartCallback _ _ hI _ := Safe.pure hI
  onInternalChainTryTransferCallback _ _ _ hI _ := Safe.pure hI
  onChainCallback side success _ _ _ hI _ _ := by
    cases side <;> cases success <;> exact Safe.pure hI

/-- A state that closes the order, after an `onEnterState` that keeps the invariant. -/
theorem stateSafe_final {st : S} {onEnterState : Ref → OrderAsync E S Unit}
    (henter : ∀ ref s, C.Inv s → C.Safe (onEnterState ref) s) :
    C.StateSafe st { onEnterState, afterEnterState := OrderObj.close } :=
  { stateSafe_base st with
    enter := fun ref _ hI _ => (Safe.pure hI).bind fun _ _ _ hI _ => (henter ref _ hI).bind
      fun _ _ _ hI _ => safe_close hI }

/-- An open state change is not part of the order. -/
theorem StateSafe.change {state : OrderState E S} {ref : Ref} {st : S} (h : C.StateSafe st state)
    (hI : C.Inv s) (hst : C.StateOk s st) : C.Safe (state.change ref) s := by
  have hclose : ∀ t, C.Inv t → C.Safe (S := S) (Async.update (OrderStore.closeChange ref)) t :=
    fun t hI => safe_update_sameOrder hI fun _ => ⟨rfl, rfl, rfl, rfl, rfl⟩
  have hopen : C.Safe (S := S) (Async.update (OrderStore.openChange ref)) s :=
    safe_update_sameOrder hI fun _ => ⟨rfl, rfl, rfl, rfl, rfl⟩
  refine hopen.bind fun _ t hR hI _ => ?_
  refine (Triple.tryCatch (h.enter ref t hI (hst.later hR)) fun e u _ hI => ?_).bind
    fun _ u _ hI _ => hclose u hI
  exact (hclose u hI).bind fun _ v _ hI _ => triple_throw hI

/-- A state is entered once the object has it. -/
theorem StateSafe.changeState {state : OrderState E S} {ref : Ref} {st : S}
    (h : C.StateSafe st state) (hI : C.Inv s) (hst : C.StateOk s st) :
    C.Safe (changeState state ref st) s := by
  refine (triple_modifyObj hI (fun obj hobj => ?_) fun _ obj _ => ?_).bind
    fun _ t hR hI _ => h.change hI (hst.later hR)
  · exact (hI.object hobj).setState hst
  · exact .inl (C.transfers.outTx_setState st obj.entity)

end OrderCase

end CotServer
