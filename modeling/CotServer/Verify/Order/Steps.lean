import CotServer.Verify.Order.Moves

/-!
# What answers and events do to an order

The inversions of `OrderOp.answer` and `OrderMgr.event` for what the moves of an order are about.
-/

namespace CotServer

open Async

variable {E S : Type} [OrderEntity E S]

section

omit [OrderEntity E S]

variable {x : OrderPos E} {s : OrderStore E}

/-- What `receive` makes of an answer that is no created transaction. -/
theorem receive_isDevTest {b : Bool} :
    (x.receive (.isDevTest : OrderOp E S) (.ok b)).act = x.act ∨
      (x.receive (.isDevTest : OrderOp E S) (.ok b)).act = .tested := by
  cases b
  · exact .inl rfl
  · exact .inr rfl

theorem receive_find {state : Option S} {entity : E} :
    (x.receive (.findOneByForce state : OrderOp E S) (.ok entity)).act = x.act ∨
      ∃ request, (x.receive (.findOneByForce state : OrderOp E S) (.ok entity)).act =
        .loaded request entity := by
  cases state with
  | some st => exact .inl rfl
  | none =>
    simp only [OrderPos.receive]
    split
    · exact .inr ⟨_, rfl⟩
    · exact .inl rfl

theorem hold_sending {ref : Ref} {txId : JsString} (hact : x.act = .sending ref) :
    x.hold txId = { x with act := .holding ref txId } := by
  simp only [OrderPos.hold, hact]

theorem hold_other {txId : JsString} (hact : ∀ ref, x.act ≠ .sending ref) : x.hold txId = x := by
  unfold OrderPos.hold
  split
  · next ref href => exact absurd href (hact ref)
  · rfl

theorem hold_act {txId : JsString} :
    (x.hold txId).act = x.act ∨ ∃ ref, x.act = .sending ref ∧
      (x.hold txId).act = .holding ref txId := by
  by_cases hsending : ∃ ref, x.act = .sending ref
  · obtain ⟨ref, href⟩ := hsending
    rw [hold_sending href]
    exact .inr ⟨ref, href, rfl⟩
  · rw [hold_other fun ref href => hsending ⟨ref, href⟩]
    exact .inl rfl

/-- The report that has been looked up. -/
theorem look_act {side : ChainSide} {txId : JsString} :
    (x.look side txId).act = x.act ∨ ∃ success, x.act = .arrived ⟨side, success, txId⟩ ∧
      (x.look side txId).act = .report side success txId := by
  unfold OrderPos.look
  split
  · next report hx =>
    split
    · next heq =>
      obtain ⟨rfl, rfl⟩ := heq
      exact .inr ⟨report.success, hx, rfl⟩
    · exact .inl rfl
  · exact .inl rfl

/-- What another call leaves of the position. -/
theorem aside_stays : x.aside.act.stays = true := by
  unfold OrderPos.aside
  split
  · next hstays => exact hstays
  · rfl

theorem aside_ne_closing {ref : Ref} : x.aside.act ≠ .closing ref := by
  intro hact
  have hstays := aside_stays (x := x)
  rw [hact] at hstays
  cases hstays

theorem aside_ne_loaded {request : IpcRequest} {entity : E} :
    x.aside.act ≠ .loaded request entity := by
  intro hact
  have hstays := aside_stays (x := x)
  rw [hact] at hstays
  cases hstays

theorem receive_error {op : OrderOp E S} {e : Err} : x.receive op (.error e) = x := by
  cases op
  case findOneByForce state => cases state <;> rfl
  all_goals rfl

/-- What holds of the objects of a modified heap. -/
theorem forall_modify {P : Ref → OrderObj E → Prop} {heap : List (OrderObj E)} {ref : Ref}
    {f : OrderObj E → OrderObj E} (h : ∀ ref' obj, ref' ≠ ref → heap[ref']? = some obj → P ref' obj)
    (hf : ∀ obj, heap[ref]? = some obj → P ref (f obj)) :
    ∀ ref' obj, (heap.modify ref f)[ref']? = some obj → P ref' obj := by
  intro ref' obj' hobj'
  rw [List.getElem?_modify] at hobj'
  obtain ⟨obj, hobj, hobj'⟩ := Option.map_eq_some_iff.1 hobj'
  by_cases href : ref = ref'
  · subst href
    rw [if_pos rfl] at hobj'
    subst hobj'
    exact hf obj hobj
  · rw [if_neg href] at hobj'
    subst hobj'
    exact h ref' obj (Ne.symm href) hobj

/-- An object after the change of one of them. -/
theorem object_modify {ref ref' : Ref} {f : OrderObj E → OrderObj E} {obj' : OrderObj E}
    (h : (s.modify ref f).heap[ref']? = some obj') : ∃ obj, s.heap[ref']? = some obj ∧
      (ref' = ref ∧ obj' = f obj ∨ ref' ≠ ref ∧ obj' = obj) := by
  rw [OrderStore.modify, List.getElem?_modify] at h
  obtain ⟨obj, hobj, heq⟩ := Option.map_eq_some_iff.1 h
  refine ⟨obj, hobj, ?_⟩
  split at heq
  · next href => exact .inl ⟨href.symm, heq.symm⟩
  · next href => exact .inr ⟨Ne.symm href, heq.symm⟩

theorem modify_object (ref : Ref) (f : OrderObj E → OrderObj E) {ref' : Ref} {obj : OrderObj E}
    (h : s.heap[ref']? = some obj) : ∃ obj', (s.modify ref f).heap[ref']? = some obj' ∧
      (ref' = ref ∧ obj' = f obj ∨ ref' ≠ ref ∧ obj' = obj) := by
  rw [OrderStore.modify, List.getElem?_modify, h]
  by_cases href : ref = ref'
  · exact ⟨f obj, by simp [href], .inl ⟨href.symm, rfl⟩⟩
  · exact ⟨obj, by simp [href], .inr ⟨Ne.symm href, rfl⟩⟩

/-- What holds of the objects after one has been made. -/
theorem forall_newObj {P : Ref → OrderObj E → Prop} {e : E}
    (h : ∀ ref obj, s.heap[ref]? = some obj → P ref obj) (hnew : P s.heap.length { entity := e }) :
    ∀ ref obj, (OrderMgr.newObj e s).heap[ref]? = some obj → P ref obj := by
  intro ref obj hobj
  rcases Nat.lt_trichotomy ref s.heap.length with hlt | rfl | hgt
  · rw [OrderMgr.newObj, List.getElem?_append_left hlt] at hobj
    exact h ref obj hobj
  · rw [OrderMgr.newObj, List.getElem?_concat_length] at hobj
    cases hobj
    exact hnew
  · have hlength : (OrderMgr.newObj e s).heap.length ≤ ref := by
      simpa [OrderMgr.newObj] using Nat.succ_le_of_lt hgt
    exact absurd hobj (by simp [List.getElem?_eq_none hlength])

theorem length_newObj {e : E} : (OrderMgr.newObj e s).heap.length = s.heap.length + 1 := by
  simp [OrderMgr.newObj]

end

/-- The answers to a call, and what they tell. -/
inductive OrderAnswer (env : OrderEnv) (s : OrderStore E) :
    (op : OrderOp E S) → Except Err op.Ans → OrderStore E → Prop
  | throws {op : OrderOp E S} (e : Err) : OrderAnswer env s op (.error e) s
  | aux {op : OrderOp E S} {r t} (h : s.SameCore t)
    (hx : ∀ x : OrderPos E, x.receive op r = x) : OrderAnswer env s op r t
  | isDevTest : OrderAnswer env s .isDevTest (.ok env.devTest) s
  | save (entity : E) : OrderAnswer env s (.save entity) (.ok ()) { s with row := entity }
  | saveState (st : S) :
    OrderAnswer env s (.saveState st) (.ok ()) { s with row := OrderEntity.setState st s.row }
  | find {state : Option S} (h : ∀ st ∈ state, OrderEntity.state s.row = st) :
    OrderAnswer env s (.findOneByForce state) (.ok s.row) s
  | update {state newState : S} (h : OrderEntity.state s.row = state) :
    OrderAnswer env s (.update state newState) (.ok 1)
      { s with row := OrderEntity.setState newState s.row }
  | noUpdate {state newState : S} (h : OrderEntity.state s.row ≠ state) :
    OrderAnswer env s (.update state newState) (.ok 0) s
  | look {side txId} : OrderAnswer env s (.getTrans side txId) (.ok ()) s
  | create {op : OrderOp E S} {r txId} (hop : op.creates = true) (hnew : txId ∉ s.created)
    (hid : txId ≠ OrderEntity.entityId s.row)
    (hx : ∀ x : OrderPos E, x.receive op r = x.hold txId) :
    OrderAnswer env s op r { s with created := txId :: s.created }

theorem heap_of_answer {env : OrderEnv} {s t : OrderStore E} {op : OrderOp E S}
    {r : Except Err op.Ans} (h : OrderAnswer env s op r t) : t.heap = s.heap := by
  cases h with
  | aux hst => exact hst.heap
  | _ => rfl

theorem row_of_move {K : OrderKind E S} {env : OrderEnv} {x y : OrderPos E} {s t : OrderStore E}
    (h : OrderMove K env x s y t) : t.row = s.row := by
  cases h with
  | aux hst => exact hst.row
  | close => split <;> rfl
  | _ => rfl

namespace OrderStore

theorem SameCore.refl (s : OrderStore E) : s.SameCore s :=
  ⟨rfl, rfl, rfl, rfl, rfl, rfl, rfl, rfl, rfl, rfl⟩

end OrderStore

/-- What a create call that returns tells. -/
theorem OrderAnswer.of_create {env : OrderEnv} {s t : OrderStore E} {op : OrderOp E S}
    {r : Except Err JsString} {txId : JsString} (hop : op.creates = true)
    (hans : op.Ans = JsString) (h : s.create txId = some (r, t))
    (hx : ∀ x : OrderPos E, x.receive op (hans ▸ .ok txId) = x.hold txId) :
    OrderAnswer env s op (hans ▸ r) t := by
  unfold OrderStore.create at h
  split at h
  · cases h
  · next hfresh =>
    obtain ⟨hnew, hid⟩ := not_or.1 hfresh
    cases h
    exact .create hop hnew hid hx

theorem OrderOp.answer_cases [DecidableEq S] {env : OrderEnv} {op : OrderOp E S} {o : OrderChoice}
    {s t : OrderStore E} {r : Except Err op.Ans} (h : op.answer env o s = some (r, t)) :
    OrderAnswer env s op r t := by
  have haux : s.SameCore s := .refl s
  cases o with
  | fails e =>
    cases h
    exact .throws e
  | done =>
    cases op <;> simp only [OrderOp.answer, reduceCtorEq] at h
    case findOneByForce state =>
      split at h <;> cases h
      · next hstate => exact .find fun st hst => by simpa [Option.mem_def.1 hst] using hstate
      · exact .throws _
    case update =>
      split at h <;> cases h
      · next hstate => exact .update hstate
      · next hstate => exact .noUpdate hstate
    all_goals cases h
    case isDevTest.refl => exact .isDevTest
    case save.refl entity => exact .save entity
    case saveState.refl st => exact .saveState st
    case publishOrderEvent.refl =>
      exact .aux ⟨rfl, rfl, rfl, rfl, rfl, rfl, rfl, rfl, rfl, rfl⟩ fun _ => rfl
    case getTrans.refl => exact .look
    all_goals exact .aux haux fun _ => rfl
  | amount n =>
    cases op <;> cases h
    exact .aux haux fun _ => rfl
  | text txId =>
    cases op <;> simp only [OrderOp.answer, reduceCtorEq] at h
    all_goals exact OrderAnswer.of_create rfl rfl h fun _ => rfl
  | flag b =>
    cases op <;> simp only [OrderOp.answer, OrderStore.resetTrans, reduceCtorEq] at h
    case ipcReply =>
      split at h <;> cases h
      exact .aux haux fun _ => rfl
    all_goals
      cases h
      refine .aux ?_ fun _ => rfl
      split
      · exact ⟨rfl, rfl, rfl, rfl, rfl, rfl, rfl, rfl, rfl, rfl⟩
      · exact haux

/-- What an event does to the store. -/
inductive OrderEvent (mgr : OrderMgr E S) (s : OrderStore E) : OrderEvt → OrderStore E → Prop
  | aux {e t} (h : s.SameCore t) (he : e.start (E := E) = { act := .plain }) : OrderEvent mgr s e t
  | deliver {message again t} (h : s.SameCore t) : OrderEvent mgr s (.deliver message again) t
  | restart {t} (h : s.unmap.SameCore t) : OrderEvent mgr s .restart t
  | setOrderPending (hidle : s.processing = none)
    (hinit : mgr.getInitOrderOptions (OrderEntity.state s.row) = true) :
    OrderEvent mgr s .setOrderPending (OrderMgr.newObj (mgr.setOrderPending s.row) s)
  | load (hidle : s.processing = none)
    (hpending : mgr.getPendingOrderOptions (OrderEntity.state s.row) = true) :
    OrderEvent mgr s .load (OrderMgr.newObj s.row s)
  | onChain (report : Report) :
    OrderEvent mgr s (.onChain report) { s with reports := report :: s.reports }
  | serveIpc {request} (hsent : request ∈ s.ipcRequests) :
    OrderEvent mgr s (.serveIpc request) { s with ipcRequests := s.ipcRequests.erase request }

theorem OrderMgr.event_cases {mgr : OrderMgr E S} {e : OrderEvt} {s t : OrderStore E}
    {next : Option (OrderProcess × OrderAsync E S Unit)} (h : mgr.event e s = some (t, next)) :
    OrderEvent mgr s e t := by
  have haux : s.SameCore s := .refl s
  cases e <;> simp only [OrderMgr.event] at h
  case setOrderPending =>
    split at h <;> cases h
    next hinit => exact .setOrderPending hinit.1 hinit.2
  case load =>
    split at h <;> cases h
    next hpending => exact .load hpending.1 hpending.2
  case restart =>
    cases h
    exact .restart ⟨rfl, rfl, rfl, rfl, rfl, rfl, rfl, rfl, rfl, rfl⟩
  case onChain report =>
    cases h
    exact .onChain report
  case serveIpc request =>
    split at h <;> cases h
    next hsent => exact .serveIpc hsent
  case deliver =>
    split at h <;> cases h
    exact .deliver ⟨rfl, rfl, rfl, rfl, rfl, rfl, rfl, rfl, rfl, rfl⟩
  case queueWaited =>
    split at h
    · split at h <;> cases h
      exact .aux ⟨rfl, rfl, rfl, rfl, rfl, rfl, rfl, rfl, rfl, rfl⟩ rfl
    · cases h
  case setRWKeypair accountType secret =>
    cases h
    refine .aux ?_ rfl
    unfold OrderStore.setRWKeypair
    split <;> exact ⟨rfl, rfl, rfl, rfl, rfl, rfl, rfl, rfl, rfl, rfl⟩
  case setExternalKeypair chainName assetType account =>
    cases h
    refine .aux ?_ rfl
    unfold OrderStore.setExternalKeypair
    simp only
    split <;> exact ⟨rfl, rfl, rfl, rfl, rfl, rfl, rfl, rfl, rfl, rfl⟩
  all_goals
    cases h
    exact .aux ⟨rfl, rfl, rfl, rfl, rfl, rfl, rfl, rfl, rfl, rfl⟩ rfl

end CotServer
