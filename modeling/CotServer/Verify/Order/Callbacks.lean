import CotServer.Verify.Order.Follows
import CotServer.Verify.Order.Steps
import Mathlib.Data.Multiset.Filter
import Mathlib.Data.List.Dedup

/-!
# Callbacks of the outgoing transaction

A transaction is in an object from when its create call returns until its failure is accepted, and
never again: another transaction or the placeholder takes its place, and the wallet does not create
it a second time. `Callbacks` follows each transaction on this way, also while it is only in the
answer to a create call.
-/

namespace CotServer

open Async Moves

variable {E S : Type} [OrderEntity E S]

/-- The function has nothing to do with a transaction, a report or a row. -/
def OrderAct.idle : OrderAct E → Bool
  | .arrived _ | .report .. | .sending _ | .holding .. | .loaded .. => false
  | _ => true

namespace OrderKind

theorem Enters.idle {K : OrderKind E S} {st : S} {ref : Ref} {act : OrderAct E}
    (h : K.Enters st ref act) : act.idle = true := by
  obtain ⟨-, rfl⟩ | ⟨-, rfl⟩ := h <;> rfl

variable (K : OrderKind E S) (orderId : JsString)

/-- The order has its orderId, and the placeholder or a transaction created for it. -/
structure Known (created : List JsString) (e : E) : Prop where
  entityId : OrderEntity.entityId e = orderId
  outTx : K.outTx e = orderId ∨ K.outTx e ∈ created

/-- The object has counted the failures that it has accepted, and has none of their transactions. -/
structure Counted (created : List JsString) (accepted : List (Ref × JsString)) (ref : Ref)
    (obj : OrderObj E) : Prop where
  known : K.Known orderId created obj.entity
  fresh : K.outTx obj.entity ≠ orderId → (ref, K.outTx obj.entity) ∉ accepted
  count : obj.retryTxNum = (accepted.filter (·.1 = ref)).length

/-- The transaction was created for the object, and has not been in it. -/
structure Unused (s : OrderStore E) (ref : Ref) (txId : JsString) : Prop where
  created : txId ∈ s.created
  made : ref < s.heap.length
  accepted : (ref, txId) ∉ s.accepted
  object : ∀ obj, s.heap[ref]? = some obj → K.outTx obj.entity ≠ txId

structure CallbacksStore (s : OrderStore E) : Prop where
  row : K.Known orderId s.created s.row
  heap : ∀ ref obj, s.heap[ref]? = some obj → K.Counted orderId s.created s.accepted ref obj
  created : ∀ txId ∈ s.created, txId ≠ orderId
  accepted : ∀ p ∈ s.accepted, p.1 < s.heap.length ∧ (p.2 = orderId ∨ p.2 ∈ s.created) ∧
    ⟨K.outgoing, false, p.2⟩ ∈ s.reports
  once : (s.accepted.filter (·.2 ≠ orderId)).Nodup

def CallbacksAct (s : OrderStore E) : OrderAct E → Prop
  | .arrived report => report ∈ s.reports
  | .report side success txId => ⟨side, success, txId⟩ ∈ s.reports
  | .sending ref => ref < s.heap.length
  | .holding ref txId => K.Unused s ref txId
  | .loaded _ entity => K.Known orderId s.created entity
  | _ => True

structure CallbacksSpot (env : OrderEnv) (s : OrderStore E) (spot : OrderSpot E S) : Prop where
  act : K.CallbacksAct orderId s ((orderMoves K env).pos spot).act
  save : ∀ entity, spot.op = some (.save entity) → K.Known orderId s.created entity

/-- The transaction that is only in the answer to a create call. -/
def held (env : OrderEnv) (spot : OrderSpot E S) : Option (Ref × JsString) :=
  match ((orderMoves K env).pos spot).act with
  | .holding ref txId => some (ref, txId)
  | _ => none

/-- The invariant. -/
structure Callbacks (env : OrderEnv) (s : OrderStore E) (R : Multiset (OrderSpot E S)) : Prop where
  store : K.CallbacksStore orderId s
  spots : ∀ spot ∈ R, K.CallbacksSpot orderId env s spot
  held : (R.filterMap (K.held env)).Nodup

variable {K orderId} {env : OrderEnv} {s t : OrderStore E} {R R' : Multiset (OrderSpot E S)}
  {spot spot' : OrderSpot E S} {x y : OrderPos E}

/-! ## One function and the others -/

theorem held_eq_some {p : Ref × JsString} :
    K.held env spot = some p ↔ ((orderMoves K env).pos spot).act = .holding p.1 p.2 := by
  unfold OrderKind.held
  split
  · next ref txId hact =>
    rw [hact]
    simp [Prod.ext_iff]
  · next hact =>
    simp only [reduceCtorEq, false_iff]
    exact hact p.1 p.2

theorem Callbacks.le (h : K.Callbacks orderId env s R) (hR : R' ≤ R) : K.Callbacks orderId env s R' where
  store := h.store
  spots spot hspot := h.spots spot (Multiset.mem_of_le hR hspot)
  held := Multiset.nodup_of_le (Multiset.filterMap_le_filterMap _ hR) h.held

theorem callbacks_cons : K.Callbacks orderId env s (spot ::ₘ R) ↔
    K.Callbacks orderId env s R ∧ K.CallbacksSpot orderId env s spot ∧
      ∀ p, K.held env spot = some p → p ∉ R.filterMap (K.held env) := by
  constructor
  · intro h
    refine ⟨h.le (Multiset.le_cons_self _ _), h.spots _ (Multiset.mem_cons_self _ _), ?_⟩
    intro p hp
    have hheld := h.held
    rw [Multiset.filterMap_cons_some _ _ _ hp, Multiset.nodup_cons] at hheld
    exact hheld.1
  · rintro ⟨h, hspot, hp⟩
    refine ⟨h.store, ?_, ?_⟩
    · intro spot' hspot'
      rcases Multiset.mem_cons.1 hspot' with rfl | hspot'
      · exact hspot
      · exact h.spots spot' hspot'
    · cases hheld : K.held env spot with
      | none =>
        rw [Multiset.filterMap_cons_none _ _ hheld]
        exact h.held
      | some p =>
        rw [Multiset.filterMap_cons_some _ _ _ hheld, Multiset.nodup_cons]
        exact ⟨hp p hheld, h.held⟩

variable (K env) in
/-- The history grows, and what is held stays unused. -/
structure Grows (s t : OrderStore E) (R : Multiset (OrderSpot E S)) : Prop where
  reports : s.reports ⊆ t.reports
  created : s.created ⊆ t.created
  heap : s.heap.length ≤ t.heap.length
  unused : ∀ ref txId, (ref, txId) ∈ R.filterMap (K.held env) → K.Unused s ref txId →
    K.Unused t ref txId

theorem Known.later {created created' : List JsString} {e : E} (h : K.Known orderId created e)
    (hst : created ⊆ created') : K.Known orderId created' e :=
  ⟨h.entityId, h.outTx.imp_right fun hcreated => hst hcreated⟩

theorem CallbacksSpot.later (h : K.CallbacksSpot orderId env s spot) (hst : K.Grows env s t R)
    (hspot : spot ∈ R) : K.CallbacksSpot orderId env t spot := by
  refine ⟨?_, fun entity hop => (h.save entity hop).later hst.created⟩
  have hact := h.act
  cases hpos : ((orderMoves K env).pos spot).act <;> rw [hpos] at hact
  case arrived | report => exact hst.reports hact
  case sending => exact Nat.lt_of_lt_of_le hact hst.heap
  case holding ref txId =>
    have hmem : (ref, txId) ∈ R.filterMap (K.held env) :=
      (Multiset.mem_filterMap _ _).2 ⟨spot, hspot, held_eq_some.2 hpos⟩
    exact hst.unused ref txId hmem hact
  case loaded => exact Known.later hact hst.created
  all_goals exact trivial

theorem Callbacks.later (h : K.Callbacks orderId env s R) (hst : K.Grows env s t R)
    (hstore : K.CallbacksStore orderId t) : K.Callbacks orderId env t R where
  store := hstore
  spots spot hspot := (h.spots spot hspot).later hst hspot
  held := h.held

/-- A function that holds nothing more than before goes on. -/
theorem Callbacks.step (h : K.Callbacks orderId env s (spot ::ₘ R)) (hst : K.Grows env s t R)
    (hstore : K.CallbacksStore orderId t) (hspot : K.CallbacksSpot orderId env t spot')
    (hheld : ∀ p, K.held env spot' = some p → K.held env spot = some p) :
    K.Callbacks orderId env t (spot' ::ₘ R) := by
  obtain ⟨hR, -, hnot⟩ := callbacks_cons.1 h
  exact callbacks_cons.2 ⟨hR.later hst hstore, hspot, fun p hp => hnot p (hheld p hp)⟩

/-! ## The store -/

/-- The stores agree on what the invariant is about. -/
structure SameBook (s t : OrderStore E) : Prop where
  row : t.row = s.row
  heap : t.heap = s.heap
  created : t.created = s.created
  reports : t.reports = s.reports
  accepted : t.accepted = s.accepted

theorem SameBook.of_sameCore (h : s.SameCore t) : SameBook s t :=
  ⟨h.row, h.heap, h.created, h.reports, h.accepted⟩

theorem SameBook.unused (h : SameBook s t) {ref : Ref} {txId : JsString}
    (hunused : K.Unused s ref txId) : K.Unused t ref txId := by
  obtain ⟨hcreated, hmade, haccepted, hobject⟩ := hunused
  refine ⟨?_, ?_, ?_, ?_⟩
  · rw [h.created]
    exact hcreated
  · rw [h.heap]
    exact hmade
  · rw [h.accepted]
    exact haccepted
  · rw [h.heap]
    exact hobject

theorem SameBook.grows (h : SameBook s t) : K.Grows env s t R where
  reports := by simp [h.reports]
  created := by simp [h.created]
  heap := by simp [h.heap]
  unused _ _ _ hunused := h.unused hunused

theorem SameBook.store (h : SameBook s t) (hs : K.CallbacksStore orderId s) :
    K.CallbacksStore orderId t := by
  obtain ⟨hrow, hheap, hcreated, haccepted, honce⟩ := hs
  constructor
  · rw [h.row, h.created]
    exact hrow
  · rw [h.heap, h.created, h.accepted]
    exact hheap
  · rw [h.created]
    exact hcreated
  · rw [h.accepted, h.heap, h.created, h.reports]
    exact haccepted
  · rw [h.accepted]
    exact honce

/-- The row is written. -/
theorem CallbacksStore.setRow {e : E} (h : K.CallbacksStore orderId s) (he : K.Known orderId s.created e) :
    K.CallbacksStore orderId { s with row := e } := ⟨he, h.heap, h.created, h.accepted, h.once⟩

/-- The object at `ref` is changed. -/
theorem CallbacksStore.modify {ref : Ref} {f : OrderObj E → OrderObj E}
    (h : K.CallbacksStore orderId s)
    (hf : ∀ obj, s.heap[ref]? = some obj → K.Counted orderId s.created s.accepted ref (f obj)) :
    K.CallbacksStore orderId (s.modify ref f) where
  row := h.row
  heap := forall_modify (fun ref' obj _ => h.heap ref' obj) hf
  created := h.created
  accepted := by simpa [OrderStore.modify] using h.accepted
  once := h.once

theorem grows_modify {ref : Ref} {f : OrderObj E → OrderObj E}
    (hf : ∀ obj txId, s.heap[ref]? = some obj → (ref, txId) ∈ R.filterMap (K.held env) →
      K.Unused s ref txId → K.outTx (f obj).entity ≠ txId) :
    K.Grows env s (s.modify ref f) R where
  reports := fun _ h => h
  created := fun _ h => h
  heap := by simp [OrderStore.modify]
  unused ref' txId hheld hunused := by
    refine ⟨hunused.created, by simpa [OrderStore.modify] using hunused.made, hunused.accepted, ?_⟩
    intro obj' hobj'
    have hall := forall_modify (P := fun ref' obj => (ref', txId) ∈ R.filterMap (K.held env) →
        K.Unused s ref' txId → K.outTx obj.entity ≠ txId)
      (fun ref' obj _ hobj _ hunused => hunused.object obj hobj)
      fun obj hobj => hf obj txId hobj
    exact hall ref' obj' hobj' hheld hunused

/-! ## Moves -/

/-- The object gets another state, or something that the invariant is not about. -/
theorem Counted.sameTx {created : List JsString} {accepted : List (Ref × JsString)} {ref : Ref}
    {obj obj' : OrderObj E} (h : K.Counted orderId created accepted ref obj)
    (hid : OrderEntity.entityId obj'.entity = OrderEntity.entityId obj.entity)
    (htx : K.outTx obj'.entity = K.outTx obj.entity) (hnum : obj'.retryTxNum = obj.retryTxNum) :
    K.Counted orderId created accepted ref obj' := by
  obtain ⟨⟨hentity, hout⟩, hfresh, hcount⟩ := h
  refine ⟨⟨hid.trans hentity, ?_⟩, ?_, hnum.trans hcount⟩
  · rw [htx]
    exact hout
  · rw [htx]
    exact hfresh

theorem Grows.le (h : K.Grows env s t R) (hR : R' ≤ R) : K.Grows env s t R' :=
  ⟨h.reports, h.created, h.heap, fun ref txId hheld =>
    h.unused ref txId (Multiset.mem_of_le (Multiset.filterMap_le_filterMap _ hR) hheld)⟩

theorem Callbacks.idle (h : K.Callbacks orderId env s (.runs x ::ₘ R)) (hst : K.Grows env s t R)
    (hstore : K.CallbacksStore orderId t) (hy : y.act.idle = true) :
    K.Callbacks orderId env t (.runs y ::ₘ R) := by
  apply h.step hst hstore
  · refine ⟨?_, fun _ hop => (nomatch hop)⟩
    cases hact : y.act <;> simp_all [pos, CallbacksAct, OrderAct.idle]
  · intro p hp
    have hact : y.act = .holding p.1 p.2 := held_eq_some.1 hp
    simp [hact, OrderAct.idle] at hy

/-- The function goes on as before. -/
theorem Callbacks.stay (h : K.Callbacks orderId env s (.runs x ::ₘ R))
    (hst : K.Grows env s t (.runs x ::ₘ R)) (hstore : K.CallbacksStore orderId t)
    (hy : y.act = x.act) : K.Callbacks orderId env t (.runs y ::ₘ R) := by
  apply h.step (hst.le (Multiset.le_cons_self _ _)) hstore
  · refine ⟨?_, fun _ hop => (nomatch hop)⟩
    change K.CallbacksAct orderId t y.act
    rw [hy]
    exact ((callbacks_cons.1 h).2.1.later hst (Multiset.mem_cons_self _ _)).act
  · intro p hp
    exact held_eq_some.2 (hy ▸ held_eq_some.1 hp)

/-- The transactions of the objects stay. -/
theorem CallbacksStore.modify_sameTx {ref : Ref} {f : OrderObj E → OrderObj E}
    (h : K.CallbacksStore orderId s)
    (hid : ∀ obj, OrderEntity.entityId (f obj).entity = OrderEntity.entityId obj.entity)
    (htx : ∀ obj, K.outTx (f obj).entity = K.outTx obj.entity)
    (hnum : ∀ obj, (f obj).retryTxNum = obj.retryTxNum) :
    K.CallbacksStore orderId (s.modify ref f) := by
  apply h.modify
  intro obj hobj
  exact (h.heap ref obj hobj).sameTx (hid obj) (htx obj) (hnum obj)

theorem grows_modify_sameTx {ref : Ref} {f : OrderObj E → OrderObj E}
    (htx : ∀ obj, K.outTx (f obj).entity = K.outTx obj.entity) :
    K.Grows env s (s.modify ref f) R := by
  apply grows_modify
  intro obj txId hobj _ hunused
  rw [htx]
  exact hunused.object obj hobj

theorem callbacks_record {ref : Ref} {txId : JsString} {f : OrderObj E → OrderObj E}
    (h : K.Callbacks orderId env s (.runs x ::ₘ R)) (hx : x.act = .holding ref txId)
    (hf : K.SetsOutTx txId f) :
    K.Callbacks orderId env (s.modify ref f) (.runs { x with act := .recorded ref txId } ::ₘ R) := by
  obtain ⟨-, hspot, hnot⟩ := callbacks_cons.1 h
  have hunused : K.Unused s ref txId := by
    have hact := hspot.act
    rw [pos, hx] at hact
    exact hact
  apply h.step
  · apply grows_modify
    intro obj txId' _ hheld _
    have hne : (ref, txId') ≠ (ref, txId) := by
      intro heq
      rw [heq] at hheld
      exact hnot (ref, txId) (held_eq_some.2 hx) hheld
    rw [(hf obj).1, K.outTx_setOutTx]
    exact fun heq => hne (by rw [heq])
  · apply h.store.modify
    intro obj hobj
    obtain ⟨⟨hentity, -⟩, -, hcount⟩ := h.store.heap ref obj hobj
    refine ⟨⟨?_, ?_⟩, ?_, (hf obj).2.trans hcount⟩
    · rw [(hf obj).1, K.entityId_setOutTx]
      exact hentity
    · rw [(hf obj).1, K.outTx_setOutTx]
      exact .inr hunused.created
    · rw [(hf obj).1, K.outTx_setOutTx]
      exact fun _ => hunused.accepted
  · exact ⟨trivial, fun _ hop => (nomatch hop)⟩
  · intro p hp
    exact absurd (held_eq_some.1 hp) (by simp [pos])

theorem callbacks_reject {ref : Ref} {obj : OrderObj E} {txId : JsString}
    {f : OrderObj E → OrderObj E} (h : K.Callbacks orderId env s (.runs x ::ₘ R))
    (hx : x.act = .report K.outgoing false txId) (hobj : s.heap[ref]? = some obj)
    (htxId : txId = K.outTx obj.entity) (hf : K.Retries f) :
    K.Callbacks orderId env { s with
        heap := s.heap.modify ref f, accepted := (ref, txId) :: s.accepted }
      (.runs { x with act := .failed ref } ::ₘ R) := by
  obtain ⟨-, hspot, -⟩ := callbacks_cons.1 h
  have hreport : ⟨K.outgoing, false, txId⟩ ∈ s.reports := by
    have hact := hspot.act
    rw [pos, hx] at hact
    exact hact
  have hcounted := h.store.heap ref obj hobj
  have hlength : ref < s.heap.length := (List.getElem?_eq_some_iff.1 hobj).1
  apply h.step
  · refine ⟨fun _ h => h, fun _ h => h, by simp, fun ref' txId' _ hunused => ?_⟩
    -- what is held is not the transaction that has failed
    have hne : ref' = ref → txId' ≠ txId := by
      rintro rfl rfl
      exact hunused.object obj hobj htxId.symm
    refine ⟨hunused.created, by simpa using hunused.made, ?_, ?_⟩
    · intro hmem
      rcases List.mem_cons.1 hmem with heq | hmem
      · cases heq
        exact hne rfl rfl
      · exact hunused.accepted hmem
    · have hall := forall_modify (P := fun i obj => i = ref' → K.outTx obj.entity ≠ txId')
        (fun i obj' _ hobj' hi => hunused.object obj' (hi ▸ hobj'))
        (fun obj' hobj' hi => by
          rw [(hf obj').1, K.outTx_setOutTx, (h.store.heap ref obj' hobj').known.entityId]
          exact Ne.symm (h.store.created txId' hunused.created))
      exact fun obj' hobj' => hall ref' obj' hobj' rfl
  · constructor
    · exact h.store.row
    · apply forall_modify
      · intro ref' obj' hne hobj'
        obtain ⟨hknown, hfresh, hcount⟩ := h.store.heap ref' obj' hobj'
        refine ⟨hknown, fun hid hmem => ?_, ?_⟩
        · rcases List.mem_cons.1 hmem with heq | hmem
          · cases heq
            exact hne rfl
          · exact hfresh hid hmem
        · simpa [Ne.symm hne] using hcount
      · intro obj' hobj'
        obtain ⟨⟨hentity, -⟩, -, hcount⟩ := h.store.heap ref obj' hobj'
        have hout : K.outTx (f obj').entity = orderId := by
          rw [(hf obj').1, K.outTx_setOutTx, hentity]
        refine ⟨⟨?_, .inl hout⟩, fun hid => absurd hout hid, ?_⟩
        · rw [(hf obj').1, K.entityId_setOutTx]
          exact hentity
        · simpa [(hf obj').2] using hcount
    · exact h.store.created
    · intro p hp
      rcases List.mem_cons.1 hp with rfl | hp
      · refine ⟨by simpa using hlength, ?_, hreport⟩
        rw [htxId]
        exact hcounted.known.outTx
      · simpa using h.store.accepted p hp
    · by_cases hid : txId = orderId
      · simpa [hid] using h.store.once
      · have hfresh : (ref, txId) ∉ s.accepted := by
          rw [htxId] at hid ⊢
          exact hcounted.fresh hid
        simp only [List.filter_cons, ne_eq, hid, not_false_eq_true, decide_true, if_true]
        refine List.nodup_cons.2 ⟨fun hmem => hfresh (List.mem_of_mem_filter hmem), h.store.once⟩
  · exact ⟨trivial, fun _ hop => (nomatch hop)⟩
  · intro p hp
    exact absurd (held_eq_some.1 hp) (by simp [pos])

/-- A new object has counted nothing, and no failure has been accepted for it. -/
theorem CallbacksStore.newObj {e : E} (h : K.CallbacksStore orderId s)
    (he : K.Known orderId s.created e) : K.CallbacksStore orderId (OrderMgr.newObj e s) := by
  have hnot : ∀ txId, (s.heap.length, txId) ∉ s.accepted := by
    intro txId hmem
    exact absurd (h.accepted _ hmem).1 (Nat.lt_irrefl _)
  constructor
  · exact h.row
  · apply forall_newObj h.heap
    have hnone : s.accepted.filter (·.1 = s.heap.length) = [] := by
      simp only [List.filter_eq_nil_iff, decide_eq_true_eq]
      intro p hmem heq
      exact hnot p.2 (heq ▸ hmem)
    exact ⟨he, fun _ => hnot _, by simp [hnone]⟩
  · exact h.created
  · intro p hp
    obtain ⟨hlt, hrest⟩ := h.accepted p hp
    rw [length_newObj]
    exact ⟨Nat.lt_succ_of_lt hlt, hrest⟩
  · exact h.once

theorem grows_newObj {e : E} : K.Grows env s (OrderMgr.newObj e s) R where
  reports := fun _ h => h
  created := fun _ h => h
  heap := by
    rw [length_newObj]
    exact Nat.le_succ _
  unused ref txId _ hunused := by
    have hlt := hunused.made
    refine ⟨hunused.created, ?_, hunused.accepted, ?_⟩
    · rw [length_newObj]
      exact Nat.lt_succ_of_lt hlt
    · intro obj hobj
      rw [OrderMgr.newObj, List.getElem?_append_left hlt] at hobj
      exact hunused.object obj hobj

theorem callbacks_setState {ref : Ref} {st : S} (h : K.Callbacks orderId env s (.runs x ::ₘ R))
    (hy : y.act.idle = true) :
    K.Callbacks orderId env (s.modify ref (OrderObj.setState st)) (.runs y ::ₘ R) := by
  have htx : ∀ obj : OrderObj E, K.outTx (obj.setState st).entity = K.outTx obj.entity :=
    fun obj => K.outTx_setState st obj.entity
  apply h.idle (grows_modify_sameTx htx) _ hy
  apply h.store.modify_sameTx _ htx
  · exact fun _ => rfl
  · exact fun obj => OrderEntity.entityId_setState st obj.entity

theorem Callbacks.idle_same (h : K.Callbacks orderId env s (.runs x ::ₘ R)) (hst : SameBook s t)
    (hy : y.act.idle = true) : K.Callbacks orderId env t (.runs y ::ₘ R) :=
  h.idle hst.grows (hst.store h.store) hy

theorem Callbacks.stay_same (h : K.Callbacks orderId env s (.runs x ::ₘ R)) (hst : SameBook s t)
    (hy : y.act = x.act) : K.Callbacks orderId env t (.runs y ::ₘ R) :=
  h.stay hst.grows (hst.store h.store) hy

theorem Callbacks.move (h : K.Callbacks orderId env s (.runs x ::ₘ R))
    (hmove : OrderMove K env x s y t) : K.Callbacks orderId env t (.runs y ::ₘ R) := by
  cases hmove with
  | aux hst => exact h.stay_same (.of_sameCore hst) rfl
  | touch ref hf =>
    apply h.stay (grows_modify_sameTx fun obj => (hf obj).outTx) _ rfl
    apply h.store.modify_sameTx
    · exact fun obj => (hf obj).entityId
    · exact fun obj => (hf obj).outTx
    · exact fun obj => (hf obj).retryTxNum
  | close ref =>
    apply h.stay_same _ rfl
    split <;> exact ⟨rfl, rfl, rfl, rfl, rfl⟩
  | record hx hf => exact callbacks_record h hx hf
  | startOwn => exact h.idle_same ⟨rfl, rfl, rfl, rfl, rfl⟩ rfl
  | startCurrent => exact h.idle_same ⟨rfl, rfl, rfl, rfl, rfl⟩ rfl
  | reject hx hlive _ htxId hf => exact callbacks_reject h hx hlive.2 htxId hf
  | giveUp => exact callbacks_setState h rfl
  | refuse => exact callbacks_setState h rfl
  | confirm => exact callbacks_setState h rfl
  | pass _ _ _ hact => exact callbacks_setState h hact.idle
  | succeed => exact callbacks_setState h rfl
  | send => exact h.stay_same ⟨rfl, rfl, rfl, rfl, rfl⟩ rfl
  | newObj hx henters =>
    have hact : K.CallbacksAct orderId s x.act := (callbacks_cons.1 h).2.1.act
    rw [hx] at hact
    exact h.idle grows_newObj (h.store.newObj hact) henters.idle
  | reply => exact h.stay_same ⟨rfl, rfl, rfl, rfl, rfl⟩ rfl

/-! ## Awaits -/

/-- A call that does not save is handed out from the position of the function, or a new one. -/
theorem Callbacks.call {op : OrderOp E S} (h : K.Callbacks orderId env s (.runs x ::ₘ R))
    (hy : (y.act = x.act ∨ y.act = .plain) ∨ ∃ ref, y.act = .sending ref ∧ ref < s.heap.length)
    (hsave : ∀ entity, op = .save entity → K.Known orderId s.created entity) :
    K.Callbacks orderId env s (.waits y op ::ₘ R) := by
  have hsame : SameBook s s := ⟨rfl, rfl, rfl, rfl, rfl⟩
  apply h.step hsame.grows h.store
  · refine ⟨?_, fun entity hop => hsave entity (Option.some.inj hop)⟩
    change K.CallbacksAct orderId s y.act
    rcases hy with (hy | hy) | ⟨ref, hy, hlt⟩
    · rw [hy]
      exact (callbacks_cons.1 h).2.1.act
    · rw [hy]
      exact trivial
    · rw [hy]
      exact hlt
  · intro p hp
    have hact : y.act = .holding p.1 p.2 := held_eq_some.1 hp
    rcases hy with (hy | hy) | ⟨ref, hy, -⟩
    · exact held_eq_some.2 (hy ▸ hact)
    · simp [hy] at hact
    · simp [hy] at hact

theorem Callbacks.wait {op : OrderOp E S} (h : K.Callbacks orderId env s (.runs x ::ₘ R))
    (hwait : OrderWait K env x s op y) : K.Callbacks orderId env s (.waits y op ::ₘ R) := by
  cases hwait with
  | silent hop => exact h.call (.inl OrderPos.aside_act) (by rintro _ rfl; cases hop)
  | announce => exact h.call (.inl (.inl rfl)) (fun _ => nofun)
  | save hobj =>
    apply h.call (.inl (.inl rfl))
    rintro _ ⟨⟩
    exact (h.store.heap _ _ hobj).known
  | saveLive hlive =>
    apply h.call (.inl OrderPos.aside_act)
    rintro _ ⟨⟩
    exact (h.store.heap _ _ hlive.2).known
  | saveState => exact h.call (.inl OrderPos.aside_act) (fun _ => nofun)
  | retryIncoming => exact h.call (.inl OrderPos.aside_act) (fun _ => nofun)
  | retryOutgoing => exact h.call (.inl OrderPos.aside_act) (fun _ => nofun)
  | prepare hx =>
    exact h.call (.inr ⟨_, rfl, (List.getElem?_eq_some_iff.1 hx.live.2).1⟩) (fun _ => nofun)
  | create hop hx =>
    apply h.call (.inr ⟨_, rfl, (List.getElem?_eq_some_iff.1 hx.live.2).1⟩)
    rintro _ rfl
    cases hop
  | createPrepared hop => exact h.call (.inl (.inl rfl)) (by rintro _ rfl; cases hop)
  | start hop => exact h.call (.inl (.inl rfl)) (by rintro _ rfl; cases hop)

/-- The function has an answer that leaves it in its position. -/
theorem Callbacks.answered {op : OrderOp E S} {r : Except Err op.Ans}
    (h : K.Callbacks orderId env s (.waits x op ::ₘ R)) (hst : K.Grows env s t (.waits x op ::ₘ R))
    (hstore : K.CallbacksStore orderId t)
    (hr : (x.receive op r).act = x.act ∨ K.CallbacksAct orderId t (x.receive op r).act ∧
      ∀ ref txId, (x.receive op r).act ≠ .holding ref txId) :
    K.Callbacks orderId env t (.has x op r ::ₘ R) := by
  have hspot := (callbacks_cons.1 h).2.1.later hst (Multiset.mem_cons_self _ _)
  apply h.step (hst.le (Multiset.le_cons_self _ _)) hstore
  · refine ⟨?_, fun entity hop => hspot.save entity hop⟩
    change K.CallbacksAct orderId t (x.receive op r).act
    rcases hr with hr | ⟨hact, -⟩
    · rw [hr]
      exact hspot.act
    · exact hact
  · intro p hp
    have hact : (x.receive op r).act = .holding p.1 p.2 := held_eq_some.1 hp
    rcases hr with hr | ⟨-, hnot⟩
    · exact held_eq_some.2 (hr ▸ hact)
    · exact absurd hact (hnot _ _)

/-- A transaction has been created, and is held for the object. -/
theorem callbacks_create {op : OrderOp E S} {r : Except Err op.Ans} {txId : JsString}
    (h : K.Callbacks orderId env s (.waits x op ::ₘ R)) (hop : op.creates = true)
    (hnew : txId ∉ s.created) (hid : txId ≠ OrderEntity.entityId s.row)
    (hx : x.receive op r = x.hold txId) :
    K.Callbacks orderId env { s with created := txId :: s.created } (.has x op r ::ₘ R) := by
  have hne : txId ≠ orderId := h.store.row.entityId ▸ hid
  have hgrows : ∀ R, K.Grows env s { s with created := txId :: s.created } R := fun R =>
    { reports := fun _ h => h
      created := fun _ h => List.mem_cons_of_mem _ h
      heap := Nat.le_refl _
      unused := fun _ _ _ hunused => ⟨List.mem_cons_of_mem _ hunused.created, hunused.made,
        hunused.accepted, hunused.object⟩ }
  have hstore : K.CallbacksStore orderId { s with created := txId :: s.created } := by
    have hgrow := (hgrows R).created
    constructor
    · exact h.store.row.later hgrow
    · intro ref obj hobj
      have hcounted := h.store.heap ref obj hobj
      exact ⟨hcounted.known.later hgrow, hcounted.fresh, hcounted.count⟩
    · intro txId' hmem
      rcases List.mem_cons.1 hmem with rfl | hmem
      · exact hne
      · exact h.store.created txId' hmem
    · intro p hp
      obtain ⟨hlt, hknown, hreport⟩ := h.store.accepted p hp
      exact ⟨hlt, hknown.imp_right fun hcreated => hgrow hcreated, hreport⟩
    · exact h.store.once
  by_cases hsending : ∃ ref, x.act = .sending ref
  · obtain ⟨ref, href⟩ := hsending
    have hpos : (x.receive op r).act = .holding ref txId := by rw [hx, hold_sending href]
    obtain ⟨hR, hspot, -⟩ := callbacks_cons.1 h
    have hlt : ref < s.heap.length := by
      have hact := hspot.act
      change K.CallbacksAct orderId s x.act at hact
      rw [href] at hact
      exact hact
    refine callbacks_cons.2 ⟨hR.later (hgrows R) hstore, ⟨?_, ?_⟩, ?_⟩
    · change K.CallbacksAct orderId _ (x.receive op r).act
      rw [hpos]
      refine ⟨List.mem_cons_self, hlt, fun hmem => ?_, fun obj hobj htx => ?_⟩
      · exact (h.store.accepted _ hmem).2.1.elim hne hnew
      · exact (h.store.heap ref obj hobj).known.outTx.elim
          (fun heq => hne (htx.symm.trans heq)) (fun hcreated => hnew (htx ▸ hcreated))
    · intro entity hsave
      cases hsave
      cases hop
    · intro p hp hmem
      -- what the others hold was created before
      have hp : (x.receive op r).act = .holding p.1 p.2 := held_eq_some.1 hp
      rw [hpos] at hp
      cases hp
      obtain ⟨spot, hspot, hheld⟩ := (Multiset.mem_filterMap _ _).1 hmem
      have hact := (hR.spots spot hspot).act
      rw [held_eq_some.1 hheld] at hact
      exact hnew hact.created
  · have hrec : x.receive op r = x := by
      rw [hx]
      exact hold_other fun ref href => hsending ⟨ref, href⟩
    exact h.answered (hgrows _) hstore (.inl (by rw [hrec]))

theorem Callbacks.answer {op : OrderOp E S} {r : Except Err op.Ans}
    (h : K.Callbacks orderId env s (.waits x op ::ₘ R)) (hans : OrderAnswer env s op r t) :
    K.Callbacks orderId env t (.has x op r ::ₘ R) := by
  have hsame : K.Grows env s s (.waits x op ::ₘ R) :=
    SameBook.grows ⟨rfl, rfl, rfl, rfl, rfl⟩
  have hrow : ∀ e, K.Grows env s { s with row := e } (.waits x op ::ₘ R) := fun e =>
    ⟨fun _ h => h, fun _ h => h, Nat.le_refl _, fun _ _ _ hunused =>
      ⟨hunused.created, hunused.made, hunused.accepted, hunused.object⟩⟩
  have hstate : ∀ st, K.Known orderId s.created (OrderEntity.setState st s.row) := fun st =>
    ⟨(OrderEntity.entityId_setState st s.row).trans h.store.row.entityId, by
      rw [K.outTx_setState]
      exact h.store.row.outTx⟩
  cases hans with
  | throws e => exact h.answered hsame h.store (.inl (by rw [receive_error]))
  | aux hst hx =>
    have hbook := SameBook.of_sameCore hst
    exact h.answered hbook.grows (hbook.store h.store) (.inl (by rw [hx]))
  | isDevTest =>
    refine h.answered hsame h.store (receive_isDevTest.imp_right fun hr => ?_)
    rw [hr]
    exact ⟨trivial, fun _ _ => nofun⟩
  | save entity =>
    have hentity := (callbacks_cons.1 h).2.1.save entity rfl
    exact h.answered (hrow _) (h.store.setRow hentity) (.inl rfl)
  | saveState st => exact h.answered (hrow _) (h.store.setRow (hstate st)) (.inl rfl)
  | find =>
    refine h.answered hsame h.store (receive_find.imp_right fun ⟨request, hr⟩ => ?_)
    rw [hr]
    exact ⟨h.store.row, fun _ _ => nofun⟩
  | update => exact h.answered (hrow _) (h.store.setRow (hstate _)) (.inl rfl)
  | noUpdate => exact h.answered hsame h.store (.inl rfl)
  | look =>
    refine h.answered hsame h.store (look_act.imp_right fun ⟨success, hx, hr⟩ => ?_)
    have hact := (callbacks_cons.1 h).2.1.act
    change K.CallbacksAct orderId s x.act at hact
    rw [hx] at hact
    change K.CallbacksAct orderId s (x.look _ _).act ∧ ∀ ref txId, (x.look _ _).act ≠ _
    rw [hr]
    exact ⟨hact, fun _ _ => nofun⟩
  | create hop hnew hid hx => exact callbacks_create h hop hnew hid (hx x)

/-- A function that is started. -/
theorem Callbacks.start (h : K.Callbacks orderId env s R)
    (hact : K.CallbacksAct orderId s x.act) (hx : ∀ ref txId, x.act ≠ .holding ref txId) :
    K.Callbacks orderId env s (.runs x ::ₘ R) := by
  refine callbacks_cons.2 ⟨h, ⟨hact, fun _ hop => (nomatch hop)⟩, fun p hp => ?_⟩
  exact absurd (held_eq_some.1 hp) (hx p.1 p.2)

/-- The events that make an object keep the id and the transaction of the order. -/
theorem Callbacks.event {mgr : OrderMgr E S} (hmgr : K.MgrSafe env mgr) {e : OrderEvt}
    (h : K.Callbacks orderId env s R) (hevent : OrderEvent mgr s e t) :
    K.Callbacks orderId env t R ∧ K.Callbacks orderId env t (.runs e.start ::ₘ R) := by
  have hsame : ∀ {t : OrderStore E}, SameBook s t → K.Callbacks orderId env t R :=
    fun hst => h.later hst.grows (hst.store h.store)
  have hplain : ∀ {t : OrderStore E}, K.Callbacks orderId env t R →
      K.Callbacks orderId env t (.runs { act := .plain } ::ₘ R) :=
    fun ht => ht.start trivial (fun _ _ => nofun)
  cases hevent with
  | aux hst he =>
    rw [he]
    exact ⟨hsame (.of_sameCore hst), hplain (hsame (.of_sameCore hst))⟩
  | deliver hst =>
    have ht := hsame (.of_sameCore hst)
    exact ⟨ht, ht.start trivial (fun _ _ => nofun)⟩
  | restart hst =>
    have hst : SameBook s t := ⟨hst.row, hst.heap, hst.created, hst.reports, hst.accepted⟩
    exact ⟨hsame hst, hplain (hsame hst)⟩
  | setOrderPending =>
    have hknown : K.Known orderId s.created (mgr.setOrderPending s.row) := by
      obtain ⟨hid, hout⟩ := hmgr.setOrderPending s.row
      refine ⟨hid.trans h.store.row.entityId, ?_⟩
      rw [hout]
      exact h.store.row.outTx
    have ht := h.later grows_newObj (h.store.newObj hknown)
    exact ⟨ht, hplain ht⟩
  | load =>
    have ht := h.later grows_newObj (h.store.newObj h.store.row)
    exact ⟨ht, hplain ht⟩
  | onChain report =>
    have ht : K.Callbacks orderId env { s with reports := report :: s.reports } R := by
      refine h.later ⟨fun _ h => List.mem_cons_of_mem _ h, fun _ h => h, Nat.le_refl _,
        fun _ _ _ hunused => ?_⟩ ?_
      · exact ⟨hunused.created, hunused.made, hunused.accepted, hunused.object⟩
      · refine ⟨h.store.row, h.store.heap, h.store.created, fun p hp => ?_, h.store.once⟩
        obtain ⟨hlt, hknown, hreport⟩ := h.store.accepted p hp
        exact ⟨hlt, hknown, List.mem_cons_of_mem _ hreport⟩
    exact ⟨ht, ht.start List.mem_cons_self (fun _ _ => nofun)⟩
  | @serveIpc request =>
    have ht : K.Callbacks orderId env { s with ipcRequests := s.ipcRequests.erase request } R :=
      hsame ⟨rfl, rfl, rfl, rfl, rfl⟩
    exact ⟨ht, ht.start trivial (fun _ _ => nofun)⟩

theorem callbacks_invariant [DecidableEq S] {mgr : OrderMgr E S} (hmgr : K.MgrSafe env mgr) :
    (orderMoves K env).Invariant (mgr.program env) (fun _ _ _ => True) OrderEvt.start
      (K.Callbacks orderId env) where
  drop h := h.le (Multiset.le_cons_self _ _)
  move _ h hmove := h.move hmove
  wait _ h hwait := h.wait hwait
  answer _ h _ hans := h.answer (OrderOp.answer_cases hans)
  resume _ h _ := by
    refine h.step (SameBook.grows ⟨rfl, rfl, rfl, rfl, rfl⟩) h.store ?_ fun _ hp => hp
    exact ⟨(callbacks_cons.1 h).2.1.act, fun _ hop => (nomatch hop)⟩
  event _ h _ hev hR := by
    have hboth := (h.le hR).event hmgr (OrderMgr.event_cases hev)
    split
    · exact hboth.1
    · exact hboth.2

end OrderKind

end CotServer
