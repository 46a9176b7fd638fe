import CotServer.Verify.Order.Follows
import CotServer.Verify.Order.Handlers
import CotServer.Verify.Order.Steps

/-!
# Orders whose incoming transfer is confirmed

An object goes through its incoming transfer once: no function takes it back there, and whoever
still works for an object that has failed is about to save it and take it out of the map. So when
the confirmation reaches the live object, with no state change of it open, and no failed object is
still to be saved, the order does not fail any more, as long as no new object is made from a row
that does not know of the confirmation.
-/

namespace CotServer

open Async Moves

variable {E S : Type} [OrderEntity E S]

/-- The object for which the function works on an outgoing transaction. -/
def OrderAct.outgoing : OrderAct E → Option Ref
  | .sending ref | .holding ref _ | .recorded ref _ | .failed ref => some ref
  | _ => none

namespace OrderKind

variable (K : OrderKind E S)

/-- The state does not belong to the incoming transfer. -/
def Past (st : S) : Prop := st ≠ K.incomingWait ∧ st ≠ K.incomingFail

/-- The order fails by this call. -/
def writesFailure [DecidableEq S] : OrderOp E S → Bool
  | .save entity => OrderEntity.state entity = K.incomingFail
  | .saveState st | .update _ st => st = K.incomingFail
  | _ => false

/-- No object goes back to its incoming transfer. -/
def Onward (s t : OrderStore E) : Prop :=
  ∀ (ref : Ref) (obj : OrderObj E), s.heap[ref]? = some obj → ∃ obj', t.heap[ref]? = some obj' ∧
    (OrderEntity.state obj.entity ≠ K.incomingWait →
      OrderEntity.state obj'.entity ≠ K.incomingWait ∧
      (OrderEntity.state obj'.entity = K.incomingFail →
        OrderEntity.state obj.entity = K.incomingFail))

/-- The objects of the function are where it has brought them, or further. -/
structure LegPos (s : OrderStore E) (x : OrderPos E) : Prop where
  outgoing : ∀ ref ∈ x.act.outgoing, ∃ obj, s.heap[ref]? = some obj ∧
    K.Past (OrderEntity.state obj.entity)
  closing : ∀ ref, x.act = .closing ref → ∃ obj, s.heap[ref]? = some obj ∧
    OrderEntity.state obj.entity ≠ K.incomingWait
  entered : ∀ ref ∈ x.entered, ref < s.heap.length

variable [DecidableEq S]

/-- A function that takes a failed object out of the map is suspended only while it saves it, and
one that has read the row goes on at once. -/
structure LegOp (s : OrderStore E) (x : OrderPos E) (op : OrderOp E S) : Prop where
  closing : ∀ ref obj, x.act = .closing ref → s.heap[ref]? = some obj →
    OrderEntity.state obj.entity = K.incomingFail → K.writesFailure op = true
  loaded : ∀ request entity, x.act ≠ .loaded request entity

def LegSpot (s : OrderStore E) : OrderSpot E S → Prop
  | .runs x => K.LegPos s x
  | .waits x op | .has x op _ => K.LegPos s x ∧ K.LegOp s x op

/-- The invariant of any run. -/
def Legs (s : OrderStore E) (R : Multiset (OrderSpot E S)) : Prop := ∀ spot ∈ R, K.LegSpot s spot

variable {K} {env : OrderEnv} {s t : OrderStore E} {R R' : Multiset (OrderSpot E S)}
  {spot spot' : OrderSpot E S} {x y : OrderPos E} {op : OrderOp E S}

/-! ## States and objects -/

omit [DecidableEq S] in
theorem past_outgoingWait : K.Past K.outgoingWait := by
  have hnodup := K.nodup
  simp only [List.nodup_cons, List.mem_cons, not_or] at hnodup
  exact ⟨fun h => hnodup.1.2.1 h.symm, fun h => hnodup.2.1.1 h.symm⟩

omit [DecidableEq S] in
theorem past_outgoingFail : K.Past K.outgoingFail := by
  have hnodup := K.nodup
  simp only [List.nodup_cons, List.mem_cons, not_or] at hnodup
  exact ⟨fun h => hnodup.1.2.2.1 h.symm, fun h => hnodup.2.1.2.1 h.symm⟩

omit [DecidableEq S] in
theorem past_success : K.Past K.success := by
  have hnodup := K.nodup
  simp only [List.nodup_cons, List.mem_cons, not_or] at hnodup
  exact ⟨fun h => hnodup.1.2.2.2.1 h.symm, fun h => hnodup.2.1.2.2.1 h.symm⟩

omit [DecidableEq S] in
theorem incomingFail_ne_incomingWait : K.incomingFail ≠ K.incomingWait :=
  fun h => not_final (.inl h) (.inl rfl)

omit [DecidableEq S] in
theorem Onward.of_heap (h : t.heap = s.heap) : K.Onward s t := by
  intro ref obj hobj
  exact ⟨obj, h ▸ hobj, fun hne => ⟨hne, id⟩⟩

omit [DecidableEq S] in
theorem onward_modify {ref : Ref} {f : OrderObj E → OrderObj E}
    (hf : ∀ obj, s.heap[ref]? = some obj → OrderEntity.state obj.entity ≠ K.incomingWait →
      OrderEntity.state (f obj).entity ≠ K.incomingWait ∧
      (OrderEntity.state (f obj).entity = K.incomingFail →
        OrderEntity.state obj.entity = K.incomingFail)) : K.Onward s (s.modify ref f) := by
  intro ref' obj hobj
  rw [OrderStore.modify, List.getElem?_modify, hobj]
  by_cases href : ref = ref'
  · subst href
    exact ⟨f obj, by simp, hf obj hobj⟩
  · exact ⟨obj, by simp [href], fun hne => ⟨hne, id⟩⟩

omit [DecidableEq S] in
theorem onward_modify_same {ref : Ref} {f : OrderObj E → OrderObj E}
    (hf : ∀ obj, OrderEntity.state (f obj).entity = (OrderEntity.state obj.entity : S)) :
    K.Onward s (s.modify ref f) := by
  apply onward_modify
  intro obj _ hne
  rw [hf]
  exact ⟨hne, id⟩

omit [DecidableEq S] in
theorem onward_setState {ref : Ref} {st : S} (hst : K.Past st) :
    K.Onward s (s.modify ref (OrderObj.setState st)) := by
  apply onward_modify
  intro obj _ _
  simp only [OrderObj.setState, OrderEntity.state_setState]
  exact ⟨hst.1, fun h => absurd h hst.2⟩

omit [DecidableEq S] in
theorem onward_newObj {e : E} : K.Onward s (OrderMgr.newObj e s) := by
  intro ref obj hobj
  have hlt := (List.getElem?_eq_some_iff.1 hobj).1
  refine ⟨obj, ?_, fun hne => ⟨hne, id⟩⟩
  rw [OrderMgr.newObj, List.getElem?_append_left hlt, hobj]

omit [DecidableEq S] in
theorem Onward.length (h : K.Onward s t) {ref : Ref} (href : ref < s.heap.length) :
    ref < t.heap.length := by
  obtain ⟨obj, hobj, -⟩ := h ref _ (List.getElem?_eq_getElem href)
  exact (List.getElem?_eq_some_iff.1 hobj).1

omit [DecidableEq S] in
/-- The object in a state after the change of the state. -/
theorem modify_setState {ref : Ref} {obj : OrderObj E} (st : S) (hobj : s.heap[ref]? = some obj) :
    ∃ obj', (s.modify ref (OrderObj.setState st)).heap[ref]? = some obj' ∧
      OrderEntity.state obj'.entity = st := by
  refine ⟨obj.setState st, ?_, OrderEntity.state_setState _ _⟩
  simp [OrderStore.modify, hobj]

/-! ## Positions -/

omit [DecidableEq S] in
theorem LegPos.later (h : K.LegPos s x) (hst : K.Onward s t) : K.LegPos t x where
  outgoing ref href := by
    obtain ⟨obj, hobj, hwait, hfail⟩ := h.outgoing ref href
    obtain ⟨obj', hobj', hstate⟩ := hst ref obj hobj
    exact ⟨obj', hobj', (hstate hwait).1, fun heq => hfail ((hstate hwait).2 heq)⟩
  closing ref hx := by
    obtain ⟨obj, hobj, hwait⟩ := h.closing ref hx
    obtain ⟨obj', hobj', hstate⟩ := hst ref obj hobj
    exact ⟨obj', hobj', (hstate hwait).1⟩
  entered ref href := hst.length (h.entered ref href)

theorem LegOp.later (h : K.LegOp s x op) (hpos : K.LegPos s x) (hst : K.Onward s t) :
    K.LegOp t x op where
  closing ref obj' hx hobj' hfail := by
    obtain ⟨obj, hobj, hwait⟩ := hpos.closing ref hx
    obtain ⟨obj'', hobj'', hstate⟩ := hst ref obj hobj
    cases hobj'.symm.trans hobj''
    exact h.closing ref obj hx hobj ((hstate hwait).2 hfail)
  loaded := h.loaded

theorem LegSpot.later (h : K.LegSpot s spot) (hst : K.Onward s t) : K.LegSpot t spot := by
  cases spot with
  | runs x => exact LegPos.later h hst
  | waits x op => exact ⟨h.1.later hst, h.2.later h.1 hst⟩
  | has x op r => exact ⟨h.1.later hst, h.2.later h.1 hst⟩

omit [DecidableEq S] in
/-- A function that has nothing to do with an object. -/
theorem LegPos.idle {act : OrderAct E} (h : K.LegPos s x) (hout : act.outgoing = none)
    (hclosing : ∀ ref, act ≠ .closing ref) : K.LegPos s { x with act } where
  outgoing ref href := by simp [hout] at href
  closing ref hact := absurd hact (hclosing ref)
  entered := h.entered

omit [DecidableEq S] in
theorem LegPos.aside (h : K.LegPos s x) : K.LegPos s x.aside := by
  unfold OrderPos.aside
  split
  · exact h
  · exact h.idle rfl (fun _ => nofun)

omit [DecidableEq S] in
theorem LegPos.hold {txId : JsString} (h : K.LegPos s x) : K.LegPos s (x.hold txId) := by
  by_cases hsending : ∃ ref, x.act = .sending ref
  · obtain ⟨ref, href⟩ := hsending
    rw [hold_sending href]
    refine ⟨?_, nofun, h.entered⟩
    rintro _ ⟨⟩
    exact h.outgoing ref (by simp [href, OrderAct.outgoing])
  · rw [hold_other fun ref href => hsending ⟨ref, href⟩]
    exact h

omit [DecidableEq S] in
theorem LegPos.look {side : ChainSide} {txId : JsString} (h : K.LegPos s x) :
    K.LegPos s (x.look side txId) := by
  unfold OrderPos.look
  split
  · split
    · exact h.idle rfl (fun _ => nofun)
    · exact h
  · exact h

omit [DecidableEq S] in
theorem LegPos.receive {r : Except Err op.Ans} (h : K.LegPos s x) :
    K.LegPos s (x.receive op r) := by
  unfold OrderPos.receive
  split
  case h_1 => exact h.idle rfl (fun _ => nofun)
  case h_2 =>
    split
    · exact h.idle rfl (fun _ => nofun)
    · exact h
  case h_3 | h_4 | h_5 => exact h.hold
  case h_6 => exact h.look
  all_goals exact h

theorem LegSpot.pos (h : K.LegSpot s spot) : K.LegPos s ((orderMoves K env).pos spot) := by
  cases spot with
  | runs x => exact h
  | waits x op => exact h.1
  | has x op r => exact h.1.receive

/-- A call that the function was not about to make. -/
theorem LegOp.of_aside {entered : Option Ref} :
    K.LegOp s { x.aside with entered } op where
  closing _ _ hx _ _ := absurd hx aside_ne_closing
  loaded _ _ := aside_ne_loaded

/-! ## Any run -/

theorem Legs.later (h : K.Legs s R) (hst : K.Onward s t) (hR : R' ≤ R) : K.Legs t R' :=
  fun spot hspot => (h spot (Multiset.mem_of_le hR hspot)).later hst

/-- One function goes on. -/
theorem Legs.step (h : K.Legs s (spot ::ₘ R)) (hst : K.Onward s t) (hspot : K.LegSpot t spot') :
    K.Legs t (spot' ::ₘ R) := by
  intro spot'' hmem
  rcases Multiset.mem_cons.1 hmem with rfl | hmem
  · exact hspot
  · exact (h spot'' (Multiset.mem_cons_of_mem hmem)).later hst

omit [DecidableEq S] in
/-- What a move does to the objects. -/
theorem onward_of_move (h : OrderMove K env x s y t) : K.Onward s t := by
  cases h with
  | aux hst => exact .of_heap hst.heap
  | touch ref hf => exact onward_modify_same fun obj => (hf obj).state
  | close ref => split <;> exact .of_heap rfl
  | record hx hf =>
    apply onward_modify_same
    intro obj
    rw [(hf obj).1, K.state_setOutTx]
  | @reject ref _ _ f hx hlive hstate htxId hf =>
    have honward : K.Onward s (s.modify ref f) := by
      apply onward_modify_same
      intro obj
      rw [(hf obj).1, K.state_setOutTx]
    exact honward
  | giveUp => exact onward_setState past_outgoingFail
  | refuse hx hlive hstate htxId =>
    apply onward_modify
    intro obj' hobj' hne
    cases hlive.2.symm.trans hobj'
    exact absurd hstate hne
  | confirm => exact onward_setState past_outgoingWait
  | pass hx href hst =>
    rcases hst with rfl | rfl
    · exact onward_setState past_outgoingWait
    · exact onward_setState past_success
  | succeed => exact onward_setState past_success
  | newObj => exact onward_newObj
  | startOwn | startCurrent | send | reply => exact .of_heap rfl

omit [DecidableEq S] in
/-- The object has been put into a state in which it is taken out of the map. -/
theorem legPos_closing {ref : Ref} {st : S} {obj : OrderObj E} (h : K.LegPos s x)
    (hobj : s.heap[ref]? = some obj) (hst : st ≠ K.incomingWait)
    (honward : K.Onward s (s.modify ref (OrderObj.setState st))) :
    K.LegPos (s.modify ref (OrderObj.setState st)) { x with act := .closing ref } := by
  refine ⟨nofun, ?_, (h.later honward).entered⟩
  rintro _ ⟨⟩
  obtain ⟨obj', hobj', hstate⟩ := modify_setState st hobj
  exact ⟨obj', hobj', hstate ▸ hst⟩

omit [DecidableEq S] in
theorem LegPos.move (h : K.LegPos s x) (hmove : OrderMove K env x s y t) : K.LegPos t y := by
  have hst := onward_of_move hmove
  cases hmove with
  | aux | touch | close | send | reply => exact h.later hst
  | record hx hf =>
    refine ⟨?_, nofun, (h.later hst).entered⟩
    rintro _ ⟨⟩
    exact (h.later hst).outgoing _ (by simp [hx, OrderAct.outgoing])
  | startOwn | startCurrent | confirm => exact (h.later hst).idle rfl (fun _ => nofun)
  | @reject ref obj _ f hx hlive hstate htxId hf =>
    refine ⟨?_, nofun, (h.later hst).entered⟩
    rintro _ ⟨⟩
    have hout : OrderEntity.state (f obj).entity = K.outgoingWait := by
      rw [(hf obj).1, K.state_setOutTx, hstate]
    exact ⟨f obj, by simp [hlive.2], hout ▸ past_outgoingWait⟩
  | giveUp hx hobj => exact legPos_closing h hobj past_outgoingFail.1 hst
  | refuse hx hlive => exact legPos_closing h hlive.2 incomingFail_ne_incomingWait hst
  | pass hx href hstate hact =>
    rcases hact with ⟨hfinal, rfl⟩ | ⟨-, rfl⟩
    · have hlt := h.entered _ href
      exact legPos_closing h (List.getElem?_eq_getElem hlt)
        (fun hwait => not_final (.inl hwait) hfinal) hst
    · exact (h.later hst).idle rfl (fun _ => nofun)
  | succeed hx hobj => exact legPos_closing h hobj past_success.1 hst
  | newObj hx hact =>
    rcases hact with ⟨hfinal, rfl⟩ | ⟨-, rfl⟩
    · refine ⟨nofun, ?_, nofun⟩
      rintro _ ⟨⟩
      refine ⟨_, List.getElem?_concat_length, ?_⟩
      exact fun hwait => not_final (.inl hwait) hfinal
    · exact ⟨nofun, nofun, nofun⟩

theorem Legs.move (h : K.Legs s (.runs x ::ₘ R)) (hmove : OrderMove K env x s y t) :
    K.Legs t (.runs y ::ₘ R) := by
  have hpos : K.LegPos s x := h _ (Multiset.mem_cons_self _ _)
  exact h.step (onward_of_move hmove) (hpos.move hmove)

theorem LegPos.wait (h : K.LegPos s x) (hwait : OrderWait K env x s op y) :
    K.LegPos s y ∧ K.LegOp s y op := by
  have hsending : ∀ {ref : Ref} {obj : OrderObj E}, s.Live ref obj →
      OrderEntity.state obj.entity = K.outgoingWait →
      K.LegPos s { x with act := .sending ref } ∧ K.LegOp s { x with act := .sending ref } op := by
    intro ref obj hlive hstate
    refine ⟨⟨?_, nofun, h.entered⟩, ⟨nofun, nofun⟩⟩
    rintro _ ⟨⟩
    exact ⟨obj, hlive.2, hstate ▸ past_outgoingWait⟩
  cases hwait with
  | silent | saveLive | retryIncoming | retryOutgoing => exact ⟨h.aside, .of_aside⟩
  | announce hx hstate =>
    refine ⟨h, ?_, fun _ _ hloaded => by simp [hx] at hloaded⟩
    intro ref' obj hclosing hobj hfail
    cases hx.symm.trans hclosing
    exact absurd ((hstate obj hobj).symm.trans hfail) past_success.2
  | save hobj hx =>
    refine ⟨h, ?_, ?_⟩
    · intro ref' obj' hclosing hobj' hfail
      rw [hclosing] at hx
      obtain hx | hx | hx := hx <;> cases hx
      cases hobj.symm.trans hobj'
      exact decide_eq_true hfail
    · intro request entity hloaded
      rw [hloaded] at hx
      obtain hx | hx | hx := hx <;> cases hx
  | saveState hobj =>
    refine ⟨⟨h.aside.outgoing, h.aside.closing, ?_⟩, .of_aside⟩
    rintro _ ⟨⟩
    exact (List.getElem?_eq_some_iff.1 hobj).1
  | prepare hx => exact hsending hx.live hx.state
  | create hop hx => exact hsending hx.live hx.state
  | createPrepared hop hx =>
    refine ⟨h, fun _ _ hclosing => ?_, fun _ _ hloaded => ?_⟩
    · simp [hx] at hclosing
    · simp [hx] at hloaded
  | start hop hx =>
    refine ⟨h, fun _ _ hclosing => ?_, fun _ _ hloaded => ?_⟩
    · simp [hx] at hclosing
    · simp [hx] at hloaded

theorem Legs.wait (h : K.Legs s (.runs x ::ₘ R)) (hwait : OrderWait K env x s op y) :
    K.Legs s (.waits y op ::ₘ R) := by
  have hpos : K.LegPos s x := h _ (Multiset.mem_cons_self _ _)
  exact h.step (.of_heap rfl) (hpos.wait hwait)

theorem Legs.answer {r : Except Err op.Ans} (h : K.Legs s (.waits x op ::ₘ R))
    (hans : OrderAnswer env s op r t) : K.Legs t (.has x op r ::ₘ R) := by
  have hst : K.Onward s t := .of_heap (heap_of_answer hans)
  have hspot : K.LegSpot t (.waits x op) := (h _ (Multiset.mem_cons_self _ _)).later hst
  exact h.step hst hspot

omit [DecidableEq S] in
theorem onward_of_event {mgr : OrderMgr E S} {e : OrderEvt} (h : OrderEvent mgr s e t) :
    K.Onward s t := by
  cases h with
  | aux hst => exact .of_heap hst.heap
  | deliver hst => exact .of_heap hst.heap
  | restart hst => exact .of_heap hst.heap
  | setOrderPending | load => exact onward_newObj
  | onChain | serveIpc => exact .of_heap rfl

omit [DecidableEq S] in
/-- A function that an event has started. -/
theorem legPos_start {e : OrderEvt} : K.LegPos s e.start := by
  cases e <;> exact ⟨nofun, nofun, nofun⟩

theorem legs_start {e : OrderEvt} (h : K.Legs s R) : K.Legs s (.runs e.start ::ₘ R) := by
  intro spot hmem
  rcases Multiset.mem_cons.1 hmem with rfl | hmem
  · exact legPos_start
  · exact h spot hmem

theorem legs_invariant {mgr : OrderMgr E S} :
    (orderMoves K env).Invariant (mgr.program env) (fun _ _ _ => True) OrderEvt.start
      K.Legs where
  drop h := h.later (.of_heap rfl) (Multiset.le_cons_self _ _)
  move _ h hmove := h.move hmove
  wait _ h hwait := h.wait hwait
  answer _ h _ hans := h.answer (OrderOp.answer_cases hans)
  resume _ h _ := by
    have hspot := h _ (Multiset.mem_cons_self _ _)
    exact h.step (.of_heap rfl) hspot.pos
  event _ h _ hev hR := by
    have hR := h.later (onward_of_event (OrderMgr.event_cases hev)) hR
    split
    · exact hR
    · exact legs_start hR

/-! ## After the confirmation -/

variable (K env) in
/-- No failed object is taken out of the map, and the order goes on past its incoming transfer. -/
structure ConfirmedSpot (s : OrderStore E) (spot : OrderSpot E S) : Prop where
  closing : ∀ ref obj, ((orderMoves K env).pos spot).act = .closing ref →
    s.heap[ref]? = some obj → OrderEntity.state obj.entity ≠ K.incomingFail
  loaded : ∀ request entity, ((orderMoves K env).pos spot).act = .loaded request entity →
    K.Past (OrderEntity.state entity)
  op : ∀ op, spot.op = some op → K.writesFailure op = false

variable (K env) in
/-- The invariant after the confirmation. -/
structure Confirmed (s : OrderStore E) (R : Multiset (OrderSpot E S)) : Prop where
  legs : K.Legs s R
  row : OrderEntity.state s.row ≠ K.incomingFail
  live : ∀ ref obj, s.Live ref obj → K.Past (OrderEntity.state obj.entity)
  spots : ∀ spot ∈ R, K.ConfirmedSpot env s spot

variable (K) in
/-- The action does not make an object that waits for the incoming transaction. -/
def keepsConfirmed (mgr : OrderMgr E S) (s : OrderStore E) :
    Action (OrderOp.Ans (E := E) (S := S)) Err OrderEvt OrderChoice → Bool
  | .event .setOrderPending => OrderEntity.state (mgr.setOrderPending s.row) ≠ K.incomingWait
  | .event .load => OrderEntity.state s.row ≠ K.incomingWait
  | .answer (.findOneByForce none) .done => OrderEntity.state s.row ≠ K.incomingWait
  | _ => true

theorem ConfirmedSpot.later (h : K.ConfirmedSpot env s spot) (hspot : K.LegSpot s spot)
    (hst : K.Onward s t) : K.ConfirmedSpot env t spot where
  closing ref obj' hx hobj' hfail := by
    have hpos : K.LegPos s ((orderMoves K env).pos spot) := hspot.pos
    obtain ⟨obj, hobj, hwait⟩ := hpos.closing ref hx
    obtain ⟨obj'', hobj'', hstate⟩ := hst ref obj hobj
    cases hobj'.symm.trans hobj''
    exact h.closing ref obj hx hobj ((hstate hwait).2 hfail)
  loaded := h.loaded
  op := h.op

theorem Confirmed.later (h : K.Confirmed env s R) (hst : K.Onward s t)
    (hrow : OrderEntity.state t.row ≠ K.incomingFail)
    (hlive : ∀ ref obj, t.Live ref obj → K.Past (OrderEntity.state obj.entity)) (hR : R' ≤ R) :
    K.Confirmed env t R' where
  legs := h.legs.later hst hR
  row := hrow
  live := hlive
  spots spot hmem := by
    have hmem := Multiset.mem_of_le hR hmem
    exact (h.spots spot hmem).later (h.legs spot hmem) hst

/-- One function goes on. -/
theorem Confirmed.step (h : K.Confirmed env s (spot ::ₘ R)) (hst : K.Onward s t)
    (hlegs : K.LegSpot t spot') (hrow : OrderEntity.state t.row ≠ K.incomingFail)
    (hlive : ∀ ref obj, t.Live ref obj → K.Past (OrderEntity.state obj.entity))
    (hspot : K.ConfirmedSpot env t spot') : K.Confirmed env t (spot' ::ₘ R) where
  legs := h.legs.step hst hlegs
  row := hrow
  live := hlive
  spots spot'' hmem := by
    rcases Multiset.mem_cons.1 hmem with rfl | hmem
    · exact hspot
    · have hmem : spot'' ∈ spot ::ₘ R := Multiset.mem_cons_of_mem hmem
      exact (h.spots spot'' hmem).later (h.legs spot'' hmem) hst

omit [DecidableEq S] in
/-- The object in the map after the change of an object. -/
theorem live_modify {ref : Ref} {f : OrderObj E → OrderObj E}
    (hlive : ∀ ref obj, s.Live ref obj → K.Past (OrderEntity.state obj.entity))
    (hf : ∀ obj, K.Past (OrderEntity.state obj.entity) →
      K.Past (OrderEntity.state (f obj).entity)) :
    ∀ ref' obj, (s.modify ref f).Live ref' obj → K.Past (OrderEntity.state obj.entity) := by
  rintro ref' obj' ⟨hprocessing, hobj'⟩
  have hall := forall_modify (P := fun ref' obj => s.processing = some ref' →
      K.Past (OrderEntity.state obj.entity)) (f := f)
    (fun ref' obj _ hobj hprocessing => hlive ref' obj ⟨hprocessing, hobj⟩)
    fun obj hobj hprocessing => hf obj (hlive ref obj ⟨hprocessing, hobj⟩)
  exact hall ref' obj' hobj' hprocessing

omit [DecidableEq S] in
theorem live_newObj {e : E} (he : K.Past (OrderEntity.state e)) :
    ∀ ref obj, (OrderMgr.newObj e s).Live ref obj → K.Past (OrderEntity.state obj.entity) := by
  rintro ref obj ⟨hprocessing, hobj⟩
  cases hprocessing
  rw [OrderMgr.newObj, List.getElem?_concat_length] at hobj
  cases hobj
  exact he

theorem Confirmed.live_of_move (h : K.Confirmed env s (.runs x ::ₘ R))
    (hmove : OrderMove K env x s y t) :
    ∀ ref obj, t.Live ref obj → K.Past (OrderEntity.state obj.entity) := by
  have hset : ∀ {ref : Ref} {st : S}, K.Past st → ∀ ref' obj,
      (s.modify ref (OrderObj.setState st)).Live ref' obj →
        K.Past (OrderEntity.state obj.entity) := by
    intro ref st hst
    apply live_modify h.live
    intro obj _
    simpa [OrderObj.setState] using hst
  cases hmove with
  | aux hst =>
    intro ref obj hlive
    exact h.live ref obj ⟨hst.processing ▸ hlive.1, hst.heap ▸ hlive.2⟩
  | touch ref hf => exact live_modify h.live fun obj hobj => (hf obj).state ▸ hobj
  | close ref =>
    intro ref' obj hlive
    split at hlive
    · cases hlive.1
    · exact h.live ref' obj hlive
  | record hx hf =>
    apply live_modify h.live
    intro obj hobj
    rwa [(hf obj).1, K.state_setOutTx]
  | @reject ref _ _ f hx hlive hstate htxId hf =>
    have hmodify : ∀ ref' obj, (s.modify ref f).Live ref' obj →
        K.Past (OrderEntity.state obj.entity) := by
      apply live_modify h.live
      intro obj hobj
      rwa [(hf obj).1, K.state_setOutTx]
    exact hmodify
  | giveUp => exact hset past_outgoingFail
  | refuse hx hlive hstate => exact absurd hstate (h.live _ _ hlive).1
  | confirm => exact hset past_outgoingWait
  | pass hx href hst =>
    rcases hst with rfl | rfl
    · exact hset past_outgoingWait
    · exact hset past_success
  | succeed => exact hset past_success
  | newObj hx => exact live_newObj ((h.spots _ (Multiset.mem_cons_self _ _)).loaded _ _ hx)
  | startOwn | startCurrent | send | reply => exact h.live

/-- The object has been put into a state in which it is taken out of the map. -/
theorem confirmedSpot_closing {ref : Ref} {st : S} (hst : K.Past st) :
    K.ConfirmedSpot env (s.modify ref (OrderObj.setState st))
      (.runs { x with act := .closing ref }) := by
  refine ⟨?_, nofun, nofun⟩
  rintro _ obj ⟨⟩ hobj
  rw [OrderStore.modify, List.getElem?_modify] at hobj
  obtain ⟨obj, -, rfl⟩ := Option.map_eq_some_iff.1 hobj
  simpa [OrderObj.setState] using hst.2

theorem Confirmed.move (h : K.Confirmed env s (.runs x ::ₘ R)) (hmove : OrderMove K env x s y t) :
    K.Confirmed env t (.runs y ::ₘ R) := by
  have hst := onward_of_move hmove
  have hlegs : K.LegPos s x := h.legs _ (Multiset.mem_cons_self _ _)
  have hspot := (h.spots _ (Multiset.mem_cons_self _ _)).later hlegs hst
  refine h.step hst (hlegs.move hmove) ?_ (h.live_of_move hmove) ?_
  · rw [row_of_move hmove]
    exact h.row
  · cases hmove with
    | aux | touch | close | send | reply => exact hspot
    | record | startOwn | startCurrent | reject | confirm => exact ⟨nofun, nofun, nofun⟩
    | giveUp => exact confirmedSpot_closing past_outgoingFail
    | refuse hx hlive hstate => exact absurd hstate (h.live _ _ hlive).1
    | pass hx href hstate hact =>
      rcases hact with ⟨hfinal, rfl⟩ | ⟨-, rfl⟩
      · rcases hstate with rfl | rfl
        · exact confirmedSpot_closing past_outgoingWait
        · exact confirmedSpot_closing past_success
      · exact ⟨nofun, nofun, nofun⟩
    | succeed => exact confirmedSpot_closing past_success
    | newObj hx hact =>
      have hentity := (h.spots _ (Multiset.mem_cons_self _ _)).loaded _ _ hx
      rcases hact with ⟨hfinal, rfl⟩ | ⟨-, rfl⟩
      · refine ⟨?_, nofun, nofun⟩
        rintro _ obj ⟨⟩ hobj
        rw [state_newObj obj hobj]
        exact hentity.2
      · exact ⟨nofun, nofun, nofun⟩

theorem Confirmed.wait (h : K.Confirmed env s (.runs x ::ₘ R)) (hwait : OrderWait K env x s op y) :
    K.Confirmed env s (.waits y op ::ₘ R) := by
  have hlegs : K.LegPos s x := h.legs _ (Multiset.mem_cons_self _ _)
  have hspot := h.spots _ (Multiset.mem_cons_self _ _)
  obtain ⟨hpos, hleg⟩ := hlegs.wait hwait
  refine h.step (.of_heap rfl) ⟨hpos, hleg⟩ h.row h.live ⟨?_, ?_, ?_⟩
  · intro ref obj hclosing
    change y.act = _ at hclosing
    cases hwait with
    | announce | save | createPrepared | start => exact hspot.closing ref obj hclosing
    | silent | saveLive | saveState | retryIncoming | retryOutgoing =>
      exact absurd hclosing aside_ne_closing
    | prepare | create => cases hclosing
  · intro request entity hloaded
    exact absurd hloaded (hleg.loaded request entity)
  · rintro _ ⟨⟩
    have hwaits : ∀ st, st = K.incomingWait ∨ st = K.outgoingWait → st ≠ K.incomingFail := by
      rintro st hst rfl
      exact not_final hst (.inl rfl)
    cases hwait with
    | silent hop => cases op <;> first | rfl | cases hop
    | announce | prepare => rfl
    | @save obj ref hobj hx =>
      have hpast : OrderEntity.state obj.entity ≠ K.incomingFail := by
        rcases hx with hx | hx
        · exact hspot.closing ref obj hx hobj
        · obtain ⟨obj', hobj', hpast⟩ := hlegs.outgoing ref (by
            obtain hx | hx := hx <;> simp [hx, OrderAct.outgoing])
          cases hobj.symm.trans hobj'
          exact hpast.2
      exact decide_eq_false hpast
    | saveLive hlive => exact decide_eq_false (h.live _ _ hlive).2
    | saveState hobj hstate => exact decide_eq_false (hwaits _ hstate)
    | retryIncoming => exact decide_eq_false (hwaits _ (.inl rfl))
    | retryOutgoing => exact decide_eq_false (hwaits _ (.inr rfl))
    | create hop | createPrepared hop | start hop => cases op <;> first | rfl | cases hop

/-- The row that a function reads for an object. -/
theorem past_of_find {mgr : OrderMgr E S} {o : OrderChoice} {entity : E}
    (hrow : OrderEntity.state s.row ≠ K.incomingFail)
    (hallowed : K.keepsConfirmed mgr s (.answer (.findOneByForce none) o) = true)
    (hans : (OrderOp.findOneByForce none : OrderOp E S).answer env o s = some (.ok entity, t)) :
    K.Past (OrderEntity.state entity) := by
  cases o <;> simp only [OrderOp.answer, reduceCtorEq] at hans
  case fails => cases hans
  case done =>
    simp only [Option.all_none, if_true, Option.some.injEq, Prod.mk.injEq, Except.ok.injEq] at hans
    rw [← hans.1]
    exact ⟨of_decide_eq_true hallowed, hrow⟩

/-- What a function does with an answer that is no row. -/
theorem ConfirmedSpot.answered {r : Except Err op.Ans} (h : K.ConfirmedSpot env s (.waits x op))
    (hleg : K.LegOp s x op) (hst : t.heap = s.heap)
    (hact : (x.receive op r).act = x.act ∨
      (∀ ref, (x.receive op r).act ≠ .closing ref) ∧
        ∀ request entity, (x.receive op r).act = .loaded request entity →
          K.Past (OrderEntity.state entity)) : K.ConfirmedSpot env t (.has x op r) := by
  refine ⟨?_, ?_, fun op' hop => h.op op' hop⟩
  · intro ref obj hclosing hobj
    change (x.receive op r).act = _ at hclosing
    rw [hst] at hobj
    rcases hact with hact | ⟨hnot, -⟩
    · exact h.closing ref obj (hact.symm.trans hclosing) hobj
    · exact absurd hclosing (hnot ref)
  · intro request entity hloaded
    change (x.receive op r).act = _ at hloaded
    rcases hact with hact | ⟨-, hpast⟩
    · exact absurd (hact.symm.trans hloaded) (hleg.loaded request entity)
    · exact hpast request entity hloaded

theorem Confirmed.answer {mgr : OrderMgr E S} {o : OrderChoice} {r : Except Err op.Ans}
    (h : K.Confirmed env s (.waits x op ::ₘ R))
    (hallowed : K.keepsConfirmed mgr s (.answer op o) = true)
    (hans : op.answer env o s = some (r, t)) : K.Confirmed env t (.has x op r ::ₘ R) := by
  have hcases := OrderOp.answer_cases hans
  have hheap := heap_of_answer hcases
  have hspot := h.spots _ (Multiset.mem_cons_self _ _)
  have hlegs : K.LegSpot s (.waits x op) := h.legs _ (Multiset.mem_cons_self _ _)
  have hop := hspot.op op rfl
  have hlive : t.processing = s.processing →
      ∀ ref obj, t.Live ref obj → K.Past (OrderEntity.state obj.entity) := by
    intro hprocessing ref obj hlive
    exact h.live ref obj ⟨hprocessing ▸ hlive.1, hheap ▸ hlive.2⟩
  have hsame : t.processing = s.processing → OrderEntity.state t.row ≠ K.incomingFail →
      (x.receive op r).act = x.act → K.Confirmed env t (.has x op r ::ₘ R) := by
    intro hprocessing hrow hact
    exact h.step (.of_heap hheap) (hlegs.later (.of_heap hheap)) hrow (hlive hprocessing)
      (hspot.answered hlegs.2 hheap (.inl hact))
  have hother : t.processing = s.processing → OrderEntity.state t.row ≠ K.incomingFail →
      (∀ ref, (x.receive op r).act ≠ .closing ref) →
      (∀ request entity, (x.receive op r).act = .loaded request entity →
        K.Past (OrderEntity.state entity)) → K.Confirmed env t (.has x op r ::ₘ R) := by
    intro hprocessing hrow hnot hpast
    exact h.step (.of_heap hheap) (hlegs.later (.of_heap hheap)) hrow (hlive hprocessing)
      (hspot.answered hlegs.2 hheap (.inr ⟨hnot, hpast⟩))
  cases hcases with
  | throws e => exact hsame rfl h.row (by rw [receive_error])
  | aux hst hx =>
    refine hsame hst.processing ?_ (by rw [hx])
    rw [hst.row]
    exact h.row
  | isDevTest =>
    rcases receive_isDevTest (S := S) (x := x) (b := env.devTest) with hact | hact
    · exact hsame rfl h.row hact
    · exact hother rfl h.row (by simp [hact]) (by simp [hact])
  | save entity => exact hsame rfl (of_decide_eq_false hop) rfl
  | saveState st =>
    refine hsame rfl ?_ rfl
    rw [OrderEntity.state_setState]
    exact of_decide_eq_false hop
  | @find state hstate =>
    cases state with
    | some st => exact hsame rfl h.row rfl
    | none =>
      have hpast := past_of_find h.row hallowed hans
      have hfind : (x.receive (.findOneByForce none : OrderOp E S) (.ok s.row)).act = x.act ∨
          ∃ request, (x.receive (.findOneByForce none : OrderOp E S) (.ok s.row)).act =
            .loaded request s.row := receive_find
      rcases hfind with hact | ⟨request, hact⟩
      · exact hsame rfl h.row hact
      · refine hother rfl h.row (by simp [hact]) fun request' entity hloaded => ?_
        cases hact.symm.trans hloaded
        exact hpast
  | update hstate =>
    refine hsame rfl ?_ rfl
    rw [OrderEntity.state_setState]
    exact of_decide_eq_false hop
  | noUpdate => exact hsame rfl h.row rfl
  | look =>
    rcases look_act (x := x) with hact | ⟨success, -, hact⟩
    · exact hsame rfl h.row hact
    · refine hother rfl h.row (fun ref hclosing => ?_) fun request entity hloaded => ?_
      · cases hact.symm.trans hclosing
      · cases hact.symm.trans hloaded
  | create hcreates hnew hid hx =>
    rcases hold_act (x := x) with hact | ⟨ref, -, hact⟩
    · exact hsame rfl h.row (by rw [hx, hact])
    · exact hother rfl h.row (by simp [hx, hact]) (by simp [hx, hact])

theorem confirmed_start {e : OrderEvt} (h : K.Confirmed env s R) :
    K.Confirmed env s (.runs e.start ::ₘ R) where
  legs := legs_start h.legs
  row := h.row
  live := h.live
  spots spot hmem := by
    rcases Multiset.mem_cons.1 hmem with rfl | hmem
    · cases e <;> exact ⟨nofun, nofun, nofun⟩
    · exact h.spots spot hmem

theorem Confirmed.event {mgr : OrderMgr E S} (hmgr : K.MgrSafe env mgr) {e : OrderEvt}
    (h : K.Confirmed env s R) (hallowed : K.keepsConfirmed mgr s (.event e) = true)
    (hevent : OrderEvent mgr s e t) : K.Confirmed env t R := by
  have hst : K.Onward s t := onward_of_event hevent
  cases hevent with
  | aux hcore | deliver hcore =>
    refine h.later hst ?_ (fun ref obj hlive => ?_) le_rfl
    · rw [hcore.row]
      exact h.row
    · exact h.live ref obj ⟨hcore.processing ▸ hlive.1, hcore.heap ▸ hlive.2⟩
  | restart hcore =>
    refine h.later hst ?_ (fun ref obj hlive => ?_) le_rfl
    · rw [hcore.row]
      exact h.row
    · have hnone := hcore.processing.symm.trans hlive.1
      cases hnone
  | setOrderPending hidle hinit =>
    have hpast : K.Past (OrderEntity.state (mgr.setOrderPending s.row)) :=
      ⟨of_decide_eq_true hallowed, fun hfail => hmgr.init s.row hinit (.inl hfail)⟩
    exact h.later hst h.row (live_newObj hpast) le_rfl
  | load =>
    have hpast : K.Past (OrderEntity.state s.row) := ⟨of_decide_eq_true hallowed, h.row⟩
    exact h.later hst h.row (live_newObj hpast) le_rfl
  | onChain => exact h.later hst h.row h.live le_rfl
  | serveIpc => exact h.later hst h.row h.live le_rfl

theorem confirmed_invariant {mgr : OrderMgr E S} (hmgr : K.MgrSafe env mgr) :
    (orderMoves K env).Invariant (mgr.program env)
      (fun s _ a => K.keepsConfirmed mgr s a = true) OrderEvt.start (K.Confirmed env) where
  drop h := h.later (.of_heap rfl) h.row h.live (Multiset.le_cons_self _ _)
  move _ h hmove := h.move hmove
  wait _ h hwait := h.wait hwait
  answer _ h hallowed hans := h.answer hallowed hans
  resume _ h _ := by
    have hlegs := h.legs _ (Multiset.mem_cons_self _ _)
    have hspot := h.spots _ (Multiset.mem_cons_self _ _)
    exact h.step (.of_heap rfl) hlegs.pos h.row h.live ⟨hspot.closing, hspot.loaded, nofun⟩
  event _ h hallowed hev hR := by
    have hnext := h.event hmgr hallowed (OrderMgr.event_cases hev)
    have hR := hnext.later (.of_heap rfl) hnext.row hnext.live hR
    split
    · exact hR
    · exact confirmed_start hR

/-! ## The confirmation -/

/-- A suspended function of the order worker or of a retry. -/
abbrev OrderTask (E S : Type) := @Task (OrderStore E) (OrderOp E S) OrderOp.Ans Err OrderProcess

variable (K) in
/-- The function has read an order that waits for the incoming transaction, or has failed by it,
and is about to make an object of it. -/
def hasRead (t : OrderTask E S) : Bool :=
  match t with
  | ⟨_, .findOneByForce none, _, some (.ok entity)⟩ =>
    OrderEntity.state entity = K.incomingWait || OrderEntity.state entity = K.incomingFail
  | _ => false

variable (K) in
/-- The order has not failed, and no function is about to make it fail, or to go back. -/
def settled (c : OrderPool E S) : Bool :=
  OrderEntity.state c.store.row ≠ K.incomingFail &&
    c.tasks.all fun t => !K.writesFailure t.op && !K.hasRead t

omit [OrderEntity E S] [DecidableEq S] in
theorem closing_of_receive {r : Except Err op.Ans} {ref : Ref}
    (h : (x.receive op r).act = .closing ref) : x.act = .closing ref := by
  unfold OrderPos.receive at h
  split at h
  case h_1 => cases h
  case h_2 =>
    split at h
    · cases h
    · exact h
  case h_3 | h_4 | h_5 =>
    rcases hold_act (x := x) with hact | ⟨_, -, hact⟩
    · exact hact.symm.trans h
    · cases hact.symm.trans h
  case h_6 =>
    rcases look_act (x := x) with hact | ⟨_, -, hact⟩
    · exact hact.symm.trans h
    · cases hact.symm.trans h
  all_goals exact h

theorem past_of_receive {tag : OrderProcess} {next : Except Err op.Ans → OrderAsync E S Unit}
    {r : Except Err op.Ans} {request : IpcRequest} {entity : E}
    (hread : K.hasRead ⟨tag, op, next, some r⟩ = false)
    (hx : ∀ request entity, x.act ≠ .loaded request entity)
    (h : (x.receive op r).act = .loaded request entity) : K.Past (OrderEntity.state entity) := by
  unfold OrderPos.receive at h
  split at h
  case h_1 => cases h
  case h_2 =>
    split at h
    · cases h
      simpa [hasRead, Past] using hread
    · exact absurd h (hx _ _)
  case h_3 | h_4 | h_5 =>
    rcases hold_act (x := x) with hact | ⟨_, -, hact⟩
    · exact absurd (hact.symm.trans h) (hx _ _)
    · cases hact.symm.trans h
  case h_6 =>
    rcases look_act (x := x) with hact | ⟨_, -, hact⟩
    · exact absurd (hact.symm.trans h) (hx _ _)
    · cases hact.symm.trans h
  all_goals exact absurd h (hx _ _)

/-- The invariant begins. -/
theorem confirmed_of_legs {c : OrderPool E S} (h : (orderMoves K env).Holds K.Legs c)
    (hsettled : K.settled c = true)
    (hlive : ∀ ref obj, c.store.Live ref obj → K.Past (OrderEntity.state obj.entity)) :
    (orderMoves K env).Holds (K.Confirmed env) c := by
  simp only [settled, Bool.and_eq_true, decide_eq_true_eq, List.all_eq_true,
    Bool.not_eq_true'] at hsettled
  obtain ⟨hrow, htasks⟩ := hsettled
  refine h.mono fun R hlegs htaskAt => ⟨hlegs, hrow, hlive, fun spot hmem => ?_⟩
  obtain ⟨⟨tag, op, next, reply⟩, htask, hat⟩ := htaskAt spot hmem
  obtain ⟨hwrites, hread⟩ := htasks _ htask
  have hspot := hlegs spot hmem
  have hclosing : ∀ {x : OrderPos E}, K.LegOp c.store x op → ∀ ref obj, x.act = .closing ref →
      c.store.heap[ref]? = some obj → OrderEntity.state obj.entity ≠ K.incomingFail := by
    intro x hleg ref obj hx hobj hfail
    have htrue := hleg.closing ref obj hx hobj hfail
    rw [hwrites] at htrue
    cases htrue
  cases reply with
  | none =>
    obtain ⟨x, rfl, -⟩ := hat
    refine ⟨hclosing hspot.2, ?_, by rintro _ ⟨⟩; exact hwrites⟩
    exact fun request entity hloaded => absurd hloaded (hspot.2.loaded request entity)
  | some r =>
    obtain ⟨x, rfl, -⟩ := hat
    refine ⟨?_, ?_, by rintro _ ⟨⟩; exact hwrites⟩
    · exact fun ref obj hx hobj => hclosing hspot.2 ref obj (closing_of_receive hx) hobj
    · exact fun request entity hloaded => past_of_receive hread hspot.2.loaded hloaded

variable (K) in
/-- The object in the map has not failed, waits for no other incoming transaction, and has no open
state change, so that it takes up a success at once. -/
def takes (txId : JsString) (s : OrderStore E) : Bool :=
  match s.processing with
  | none => true
  | some ref => ref ∉ s.changing ∧ (s.heap[ref]?).all fun obj =>
    if OrderEntity.state obj.entity = K.incomingWait then K.inTx obj.entity = txId
    else OrderEntity.state obj.entity ≠ K.incomingFail

/-- The function of a report, with the transaction that it has looked up. -/
def reported (mgr : OrderMgr E S) (report : Report) : OrderTask E S where
  tag := .order
  op := .getTrans report.side report.txId
  next r := settle r >>= fun _ => mgr.dispatch fun state ref =>
    state.onChainCallback report.side report.success ref report.txId
  reply := some (.ok ())

/-- A report comes, and its transaction is looked up. -/
theorem run_reported {mgr : OrderMgr E S} {report : Report} {c : OrderPool E S} :
    (mgr.program env).system.run c [.event (.onChain report), .answer c.tasks.length .done] =
      some ⟨{ c.store with reports := report :: c.store.reports },
        c.tasks ++ [reported mgr report]⟩ := by
  have hstep : (mgr.program env).system.step c (.event (.onChain report)) =
      some ⟨{ c.store with reports := report :: c.store.reports },
        c.tasks ++ [{ reported mgr report with reply := none }]⟩ := by
    have halive : c.tasks.filter
        (fun t => !(mgr.program env).kills (.onChain report) t.tag) = c.tasks := by
      simp [OrderMgr.program]
    change some (Pool.mk _ (c.tasks.filter
      (fun t => !(mgr.program env).kills (.onChain report) t.tag) ++ _)) = _
    rw [halive]
    rfl
  rw [System.run_cons, hstep, Option.bind_some, System.run_cons]
  simp [OrderMgr.program, Program.system, Program.step, OrderOp.answer, reported]

variable (K) in
/-- What the states do with the success of the incoming transaction. -/
structure Confirms (mgr : OrderMgr E S) : Prop where
  waits : ∀ (s : OrderStore E) ref obj, s.heap[ref]? = some obj →
    OrderEntity.state obj.entity = K.incomingWait →
    ∃ k, ((mgr.states obj.curStateId).onChainCallback K.incoming true ref
      (K.inTx obj.entity)).segment s = (.await (.saveState K.outgoingWait) k,
        (s.modify ref (OrderObj.setState K.outgoingWait)).openChange ref)
  others : ∀ st, st ≠ K.incomingWait → ∀ ref txId,
    (mgr.states st).onChainCallback K.incoming true ref txId = pure ()

variable {mgr : OrderMgr E S}

theorem Confirms.segment (h : K.Confirms mgr) {s : OrderStore E} {txId : JsString}
    (htakes : K.takes txId s = true) :
    (∀ ref obj, s.Live ref obj → K.Past (OrderEntity.state obj.entity)) ∧
        (∃ r, ((reported mgr ⟨K.incoming, true, txId⟩).next (.ok ())).segment s = (.done r, s)) ∨
      ∃ ref obj k, s.Live ref obj ∧
        ((reported mgr ⟨K.incoming, true, txId⟩).next (.ok ())).segment s =
          (.await (.saveState K.outgoingWait) k,
            (s.modify ref (OrderObj.setState K.outgoingWait)).openChange ref) := by
  change _ ∧ (∃ r, (mgr.dispatch fun state ref =>
    state.onChainCallback K.incoming true ref txId).segment s = (.done r, s)) ∨
    ∃ ref obj k, s.Live ref obj ∧ (mgr.dispatch fun state ref =>
      state.onChainCallback K.incoming true ref txId).segment s = _
  by_cases hlive : ∃ ref obj, s.Live ref obj
  · obtain ⟨ref, obj, hlive⟩ := hlive
    rw [segment_dispatch hlive]
    simp only [takes, hlive.1, hlive.2, Option.all_some, decide_eq_true_eq] at htakes
    obtain ⟨-, htakes⟩ := htakes
    split at htakes
    · next hstate =>
      obtain rfl : K.inTx obj.entity = txId := of_decide_eq_true htakes
      obtain ⟨k, hseg⟩ := h.waits s ref obj hlive.2 hstate
      exact .inr ⟨ref, obj, k, hlive, hseg⟩
    · next hstate =>
      refine .inl ⟨fun ref' obj' hlive' => ?_, ?_⟩
      · cases hlive.1.symm.trans hlive'.1
        cases hlive.2.symm.trans hlive'.2
        exact ⟨hstate, of_decide_eq_true htakes⟩
      · rw [OrderObj.curStateId, h.others _ hstate]
        exact ⟨_, rfl⟩
  · refine .inl ⟨fun ref obj h => absurd ⟨ref, obj, h⟩ hlive, ?_⟩
    simp only [OrderMgr.dispatch, bind_def, Async.bind, store, Async.segment]
    cases hprocessing : s.processing with
    | none => exact ⟨_, rfl⟩
    | some ref =>
      cases hobj : s.heap[ref]? with
      | none =>
        simp only [OrderObj.getObj, bind_def, Async.bind, store, Async.segment, hobj]
        exact ⟨_, rfl⟩
      | some obj => exact absurd ⟨ref, obj, hprocessing, hobj⟩ hlive

theorem settled_of_tasks {c c' : OrderPool E S} (h : K.settled c = true)
    (hrow : c'.store.row = c.store.row)
    (htasks : ∀ t ∈ c'.tasks, t ∈ c.tasks ∨ K.writesFailure t.op = false ∧ K.hasRead t = false) :
    K.settled c' = true := by
  simp only [settled, Bool.and_eq_true, decide_eq_true_eq, List.all_eq_true,
    Bool.not_eq_true'] at h ⊢
  refine ⟨hrow ▸ h.1, fun t ht => ?_⟩
  rcases htasks t ht with hold | hnew
  · exact h.2 t hold
  · exact hnew

/-- The success of the incoming transaction is handed to the live object. -/
theorem confirmed_of_step (hmgr : K.MgrSafe env mgr) (hconfirms : K.Confirms mgr)
    {c c' : OrderPool E S} {i : Nat} {txId : JsString} (hlegs : (orderMoves K env).Holds K.Legs c)
    (htask : c.tasks[i]? = some (reported mgr ⟨K.incoming, true, txId⟩))
    (htakes : K.takes txId c.store = true) (hsettled : K.settled c = true)
    (hstep : (mgr.program env).step c (.resume i) = some c') :
    (orderMoves K env).Holds (K.Confirmed env) c' := by
  have hlegs' := hlegs.step legs_invariant hmgr.starts (fun _ _ => trivial) hstep
  rcases hconfirms.segment htakes with ⟨hpast, r, hseg⟩ | ⟨ref, obj, k, hlive, hseg⟩
  · cases hstep.symm.trans (Program.step_resume_done htask rfl hseg)
    refine confirmed_of_legs hlegs' (settled_of_tasks hsettled rfl fun t ht => .inl ?_) hpast
    exact List.mem_of_mem_eraseIdx ht
  · cases hstep.symm.trans (Program.step_resume_await htask rfl hseg)
    refine confirmed_of_legs hlegs' (settled_of_tasks hsettled rfl fun t ht => ?_) ?_
    · refine (List.mem_or_eq_of_mem_set ht).imp_right ?_
      rintro rfl
      exact ⟨decide_eq_false past_outgoingWait.2, rfl⟩
    · rintro ref' obj' ⟨hprocessing, hobj'⟩
      cases hlive.1.symm.trans hprocessing
      obtain ⟨obj'', hobj'', hstate⟩ := modify_setState K.outgoingWait hlive.2
      cases hobj'.symm.trans hobj''
      exact hstate ▸ past_outgoingWait

end OrderKind

end CotServer
