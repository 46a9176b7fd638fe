import CotServer.Verify.Order.Follows
import CotServer.Verify.Order.Steps

/-!
# Outgoing transactions of orders that fail

A function that starts an outgoing transaction looks at the order once, when a message starts it,
and goes on with what it has seen. An order fails after a save, and nothing holds such a function
back in the meantime. `Outgoing` is the invariant of runs in which none gets in between: when the
failures of an order exceed the limit, no function creates or starts a transaction for it, and all
that have been started have failed.
-/

namespace CotServer

open Async Moves

variable {E S : Type} [OrderEntity E S]

namespace OrderAct

/-- The function creates an outgoing transaction, or starts one. -/
def sends : OrderAct E → Bool
  | .sending _ | .holding .. | .recorded .. | .starting => true
  | _ => false

/-- The object that is to have the created transaction. -/
def target : OrderAct E → Option Ref
  | .sending ref | .holding ref _ | .recorded ref _ => some ref
  | _ => none

/-- The function can be suspended there. -/
def rests : OrderAct E → Bool
  | .delivered _ | .report _ false _ | .holding .. | .loaded .. => false
  | _ => true

/-- The function has found out nothing that the invariant is about. -/
def calm : OrderAct E → Bool
  | .plain | .tested | .starting | .failed _ | .closing _ | .serving _ => true
  | _ => false

end OrderAct

namespace OrderKind

variable (K : OrderKind E S) (orderId : JsString) (env : OrderEnv)

/-- The object has failed, or its failures exceed the limit, and it is about to. -/
def Spent (obj : OrderObj E) : Prop :=
  OrderEntity.state obj.entity = K.outgoingFail ∨ K.retryMaxNum env < obj.retryTxNum

/-- The transaction has been reported failed, or is the placeholder. -/
def Ended (s : OrderStore E) (txId : JsString) : Prop :=
  txId = orderId ∨ ⟨K.outgoing, false, txId⟩ ∈ s.reports

/-- Every other transaction that has been started than that of the order has ended. -/
def Shows (s : OrderStore E) (e : E) : Prop :=
  ∀ txId ∈ s.started, txId = K.outTx e ∨ K.Ended orderId s txId

/-- A call of a function that creates an outgoing transaction, saves it or starts it. -/
def sends : OrderOp E S → Bool
  | .getConfigByKeyForce => true
  | .save entity => K.outTx entity ≠ OrderEntity.entityId entity
  | op => op.creates || op.starts K.outgoing

/-- An order that is saved or made has its id, and the placeholder if it has failed. -/
structure Empty (e : E) : Prop where
  entityId : OrderEntity.entityId e = orderId
  outTx : OrderEntity.state e = K.outgoingFail → K.outTx e = orderId

/-- What a function knows of the store. -/
structure OutgoingPos (s : OrderStore E) (x : OrderPos E) : Prop where
  arrived : ∀ report, x.act = .arrived report → report ∈ s.reports
  report : ∀ side success txId, x.act = .report side success txId →
    ⟨side, success, txId⟩ ∈ s.reports
  target : ∀ ref ∈ x.act.target, ∃ obj, s.heap[ref]? = some obj ∧ ¬ K.Spent env obj ∧
    ∀ ref', s.processing = some ref' → ref' = ref
  txId : ∀ ref txId, x.act = .holding ref txId ∨ x.act = .recorded ref txId → txId ≠ orderId
  recorded : ∀ ref txId, x.act = .recorded ref txId → ∀ obj, s.Live ref obj →
    K.outTx obj.entity = txId ∨ K.Ended orderId s txId
  entered : ∀ ref ∈ x.entered, ∃ obj, s.heap[ref]? = some obj ∧
    (OrderEntity.state obj.entity = K.outgoingFail → K.retryMaxNum env < obj.retryTxNum)
  loaded : ∀ request e, x.act = .loaded request e → K.Empty orderId e

/-- What a call may write to the row. -/
def MayWrite : OrderOp E S → Prop
  | .save entity => K.Empty orderId entity
  | .saveState st | .update _ st => st ≠ K.outgoingFail
  | _ => True

/-- Where a function is suspended, and what it is about to write. -/
structure OutgoingOp (x : OrderPos E) (op : OrderOp E S) : Prop where
  rests : x.act.rests = true
  sends : x.act.sends = true → K.sends op = true
  creates : (op.creates || op.starts K.outgoing) = true → x.act.sends = true
  writes : K.MayWrite orderId op

def OutgoingSpot (s : OrderStore E) : OrderSpot E S → Prop
  | .runs x => K.OutgoingPos orderId env s x
  | .waits x op => K.OutgoingPos orderId env s x ∧ K.OutgoingOp orderId x op
  | .has x op r => K.OutgoingPos orderId env s (x.receive op r) ∧ K.OutgoingOp orderId x op

/-- No function creates or starts an outgoing transaction. -/
def Quiet (R : Multiset (OrderSpot E S)) : Prop :=
  ∀ spot ∈ R, ((orderMoves K env).pos spot).act.sends = false

/-- What a function in its segment has just found out, beside the others. -/
structure OutgoingTurn (s : OrderStore E) (R : Multiset (OrderSpot E S)) (x : OrderPos E) :
    Prop where
  delivered : ∀ message, x.act = .delivered message → K.opens message = true →
    K.guarded = false → ∀ ref obj, s.Live ref obj →
      OrderEntity.state obj.entity = K.outgoingWait → obj.retryTxNum ≤ K.retryMaxNum env
  holding : ∀ ref txId, x.act = .holding ref txId → ∀ ref' obj, s.Live ref' obj →
    K.Ended orderId s (K.outTx obj.entity)
  report : ∀ txId, x.act = .report K.outgoing false txId → ∀ ref obj, s.Live ref obj →
    K.outTx obj.entity = txId → obj.retryTxNum < K.retryMaxNum env ∨ K.Quiet env R
  loaded : ∀ request e, x.act = .loaded request e → K.Quiet env R ∧ K.Shows orderId s e ∧
    (OrderEntity.state s.row = K.outgoingFail → OrderEntity.state e = K.outgoingFail)

/-- The row has failed, and the object in the map does not start a transaction any more. -/
structure RowFailed (s : OrderStore E) (R : Multiset (OrderSpot E S)) : Prop where
  outTx : K.outTx s.row = orderId
  ended : ∀ txId ∈ s.started, K.Ended orderId s txId
  quiet : K.Quiet env R
  live : ∀ ref obj, s.Live ref obj → K.retryMaxNum env < obj.retryTxNum ∨
    K.Final (OrderEntity.state obj.entity) ∧
      ∀ spot ∈ R, ((orderMoves K env).pos spot).entered ≠ some ref

structure ObjectOk (obj : OrderObj E) : Prop where
  entityId : OrderEntity.entityId obj.entity = orderId
  outTx : K.Spent env obj → K.outTx obj.entity = orderId

/-- The invariant. -/
structure Outgoing (s : OrderStore E) (R : Multiset (OrderSpot E S)) : Prop where
  entityId : OrderEntity.entityId s.row = orderId
  row : OrderEntity.state s.row = K.outgoingFail → K.RowFailed orderId env s R
  heap : ∀ (ref : Ref) (obj : OrderObj E), s.heap[ref]? = some obj → K.ObjectOk orderId env obj
  shows : ∀ ref obj, s.Live ref obj → K.Shows orderId s obj.entity
  quiet : ∀ ref obj, s.Live ref obj → K.Spent env obj → K.Quiet env R
  spots : ∀ spot ∈ R, K.OutgoingSpot orderId env s spot
  turn : ∀ x R', R = .runs x ::ₘ R' → K.OutgoingTurn orderId env s R' x

variable {K orderId env} {s t : OrderStore E} {R R' : Multiset (OrderSpot E S)}
  {spot spot' : OrderSpot E S} {x y : OrderPos E} {op : OrderOp E S} {obj obj' : OrderObj E}

/-! ## Positions -/

theorem rests_of_calm {act : OrderAct E} (h : act.calm = true) : act.rests = true := by
  cases act <;> first | rfl | cases h

/-- A function that goes on to something that the invariant is not about. -/
theorem OutgoingPos.calm {act : OrderAct E} (h : K.OutgoingPos orderId env s x)
    (hact : act.calm = true) : K.OutgoingPos orderId env s { x with act } where
  arrived report hx := by cases hx; cases hact
  report side success txId hx := by cases hx; cases hact
  target ref href := by
    cases act <;> cases hact <;> cases href
  txId ref txId hx := by
    rcases hx with hx | hx <;> cases hx <;> cases hact
  recorded ref txId hx := by cases hx; cases hact
  entered := h.entered
  loaded request e hx := by cases hx; cases hact

theorem OutgoingTurn.of_rests (hx : x.act.rests = true) : K.OutgoingTurn orderId env s R x where
  delivered message hact := by rw [hact] at hx; cases hx
  holding ref txId hact := by rw [hact] at hx; cases hx
  report txId hact := by rw [hact] at hx; cases hx
  loaded request e hact := by rw [hact] at hx; cases hx

theorem OutgoingPos.aside (h : K.OutgoingPos orderId env s x) :
    K.OutgoingPos orderId env s x.aside := by
  unfold OrderPos.aside
  split
  · exact h
  · exact h.calm rfl

omit [OrderEntity E S] in
theorem sends_receive {r : Except Err op.Ans} (h : (x.receive op r).act.sends = true) :
    x.act.sends = true := by
  unfold OrderPos.receive at h
  split at h
  case h_1 => cases h
  case h_2 =>
    split at h
    · cases h
    · exact h
  case h_3 | h_4 | h_5 =>
    rcases hold_act (x := x) with hact | ⟨ref, hx, -⟩
    · rwa [hact] at h
    · rw [hx]
      rfl
  case h_6 =>
    rcases look_act (x := x) with hact | ⟨success, -, hact⟩
    · rwa [hact] at h
    · rw [hact] at h
      cases h
  all_goals exact h

/-- What a suspended function does in its next segment, it does after its answer. -/
theorem receive_sends {r : Except Err op.Ans} (h : x.act.sends = true)
    (hop : (op.creates || op.starts K.outgoing) = true) : (x.receive op r).act.sends = true := by
  unfold OrderPos.receive
  split
  case h_1 => cases hop
  case h_2 => cases hop
  case h_3 | h_4 | h_5 =>
    rcases hold_act (x := x) with hact | ⟨ref, -, hact⟩
    · rwa [hact]
    · rw [hact]
      rfl
  case h_6 => cases hop
  all_goals exact h

theorem OutgoingSpot.pos (h : K.OutgoingSpot orderId env s spot) :
    K.OutgoingPos orderId env s ((orderMoves K env).pos spot) := by
  cases spot with
  | runs x => exact h
  | waits x op => exact h.1
  | has x op r => exact h.1

theorem OutgoingSpot.sends_op (h : K.OutgoingSpot orderId env s spot)
    (hsends : ((orderMoves K env).pos spot).act.sends = true) (hop : spot.op = some op) :
    K.sends op = true := by
  cases spot with
  | runs x => cases hop
  | waits x op =>
    cases hop
    exact h.2.sends hsends
  | has x op r =>
    cases hop
    exact h.2.sends (sends_receive hsends)

/-! ## One function and the others -/

theorem Quiet.le (h : K.Quiet env R) (hR : R' ≤ R) : K.Quiet env R' :=
  fun spot hspot => h spot (Multiset.mem_of_le hR hspot)

theorem quiet_cons : K.Quiet env (spot ::ₘ R) ↔
    ((orderMoves K env).pos spot).act.sends = false ∧ K.Quiet env R := by
  simp [Quiet]

theorem OutgoingTurn.le (h : K.OutgoingTurn orderId env s R x) (hle : R' ≤ R) :
    K.OutgoingTurn orderId env s R' x where
  delivered := h.delivered
  holding := h.holding
  report txId hact ref obj hlive hout :=
    (h.report txId hact ref obj hlive hout).imp_right fun hquiet => hquiet.le hle
  loaded request e hact := by
    obtain ⟨hquiet, hshows, hrow⟩ := h.loaded request e hact
    exact ⟨hquiet.le hle, hshows, hrow⟩

theorem Outgoing.le (h : K.Outgoing orderId env s R) (hle : R' ≤ R) :
    K.Outgoing orderId env s R' where
  entityId := h.entityId
  row hrow := by
    obtain ⟨hout, hended, hquiet, hlive⟩ := h.row hrow
    refine ⟨hout, hended, hquiet.le hle, fun ref obj hobj => ?_⟩
    exact (hlive ref obj hobj).imp_right fun hfinal => ⟨hfinal.1, fun spot hspot =>
      hfinal.2 spot (Multiset.mem_of_le hle hspot)⟩
  heap := h.heap
  shows := h.shows
  quiet ref obj hobj hspent := (h.quiet ref obj hobj hspent).le hle
  spots spot hspot := h.spots spot (Multiset.mem_of_le hle hspot)
  turn x R'' heq := by
    obtain ⟨C, rfl⟩ := Multiset.le_iff_exists_add.1 hle
    rw [heq, Multiset.cons_add] at h
    exact (h.turn x _ rfl).le (Multiset.le_add_right _ _)

variable (K orderId env) in
/-- What holds of one function beside the others. -/
structure Beside (s : OrderStore E) (R : Multiset (OrderSpot E S)) (spot : OrderSpot E S) :
    Prop where
  known : K.OutgoingSpot orderId env s spot
  sends : ((orderMoves K env).pos spot).act.sends = true →
    OrderEntity.state s.row ≠ K.outgoingFail ∧ ∀ ref obj, s.Live ref obj → ¬ K.Spent env obj
  entered : OrderEntity.state s.row = K.outgoingFail → ∀ ref obj, s.Live ref obj →
    ((orderMoves K env).pos spot).entered = some ref → K.retryMaxNum env < obj.retryTxNum
  turn : ∀ x, spot = .runs x → K.OutgoingTurn orderId env s R x

theorem outgoing_cons (hR : Suspended R) : K.Outgoing orderId env s (spot ::ₘ R) ↔
    K.Outgoing orderId env s R ∧ K.Beside orderId env s R spot := by
  constructor
  · intro h
    refine ⟨h.le (Multiset.le_cons_self _ _), ⟨h.spots spot (Multiset.mem_cons_self _ _),
      fun hsends => ⟨fun hrow => ?_, fun ref obj hobj hspent => ?_⟩, ?_, ?_⟩⟩
    · have hquiet := (quiet_cons.1 (h.row hrow).quiet).1
      simp [hsends] at hquiet
    · have hquiet := (quiet_cons.1 (h.quiet ref obj hobj hspent)).1
      simp [hsends] at hquiet
    · intro hrow ref obj hobj hentered
      rcases (h.row hrow).live ref obj hobj with hover | ⟨-, hnone⟩
      · exact hover
      · exact absurd hentered (hnone spot (Multiset.mem_cons_self _ _))
    · rintro x rfl
      exact h.turn x R rfl
  · rintro ⟨h, hspot, hsends, hentered, hturn⟩
    have hquiet : (OrderEntity.state s.row = K.outgoingFail ∨
        ∃ ref obj, s.Live ref obj ∧ K.Spent env obj) → K.Quiet env R →
        K.Quiet env (spot ::ₘ R) := by
      intro hfail hquiet
      refine quiet_cons.2 ⟨?_, hquiet⟩
      by_contra hsent
      obtain ⟨hrow, hlive⟩ := hsends (by simpa using hsent)
      rcases hfail with hfail | ⟨ref, obj, hobj, hspent⟩
      · exact hrow hfail
      · exact hlive ref obj hobj hspent
    constructor
    · exact h.entityId
    · intro hrow
      obtain ⟨hout, hended, hothers, hlive⟩ := h.row hrow
      refine ⟨hout, hended, hquiet (.inl hrow) hothers, fun ref obj hobj => ?_⟩
      rcases hlive ref obj hobj with hover | ⟨hfinal, hnone⟩
      · exact .inl hover
      · by_cases heq : ((orderMoves K env).pos spot).entered = some ref
        · exact .inl (hentered hrow ref obj hobj heq)
        · refine .inr ⟨hfinal, fun spot' hspot' => ?_⟩
          rcases Multiset.mem_cons.1 hspot' with rfl | hspot'
          · exact heq
          · exact hnone spot' hspot'
    · exact h.heap
    · exact h.shows
    · exact fun ref obj hobj hspent =>
        hquiet (.inr ⟨ref, obj, hobj, hspent⟩) (h.quiet ref obj hobj hspent)
    · intro spot' hspot'
      rcases Multiset.mem_cons.1 hspot' with rfl | hspot'
      · exact hspot
      · exact h.spots spot' hspot'
    · intro x R' heq
      have hmem : Spot.runs x ∈ spot ::ₘ R := heq ▸ Multiset.mem_cons_self _ _
      rcases Multiset.mem_cons.1 hmem with hx | hx
      · subst hx
        exact (Multiset.cons_inj_right _).1 heq ▸ hturn x rfl
      · exact absurd hx (hR x)

/-! ## What lasts -/

variable (K env) in
/-- What is known of reports and of objects that have been entered. -/
structure Later (s t : OrderStore E) : Prop where
  reports : s.reports ⊆ t.reports
  objects : ∀ (ref : Ref) (obj : OrderObj E), s.heap[ref]? = some obj →
    (OrderEntity.state obj.entity = K.outgoingFail → K.retryMaxNum env < obj.retryTxNum) →
    ∃ obj', t.heap[ref]? = some obj' ∧
      (OrderEntity.state obj'.entity = K.outgoingFail → K.retryMaxNum env < obj'.retryTxNum)

variable (K orderId env) in
/-- What is known of an object that is to have a created transaction. -/
structure Targets (s t : OrderStore E) : Prop where
  object : ∀ (ref : Ref) (obj : OrderObj E), s.heap[ref]? = some obj → ¬ K.Spent env obj →
    (∀ ref', s.processing = some ref' → ref' = ref) →
    ∃ obj', t.heap[ref]? = some obj' ∧ ¬ K.Spent env obj' ∧
      ∀ ref', t.processing = some ref' → ref' = ref
  outTx : ∀ (ref : Ref) (obj obj' : OrderObj E), s.heap[ref]? = some obj → t.Live ref obj' →
    s.Live ref obj ∧
      (K.outTx obj'.entity = K.outTx obj.entity ∨ K.Ended orderId t (K.outTx obj.entity))

theorem Ended.later {txId : JsString} (h : K.Ended orderId s txId)
    (hst : s.reports ⊆ t.reports) : K.Ended orderId t txId := h.imp_right fun hreport => hst hreport

theorem OutgoingPos.later (h : K.OutgoingPos orderId env s x) (hst : K.Later env s t)
    (htargets : x.act.sends = true → K.Targets orderId env s t) :
    K.OutgoingPos orderId env t x where
  arrived report hx := hst.reports (h.arrived report hx)
  report side success txId hx := hst.reports (h.report side success txId hx)
  target ref href := by
    obtain ⟨obj, hobj, hspent, hlive⟩ := h.target ref href
    refine (htargets ?_).object ref obj hobj hspent hlive
    cases hact : x.act <;> rw [hact] at href <;> first | rfl | cases href
  txId := h.txId
  recorded ref txId hx obj' hobj' := by
    obtain ⟨obj, hobj, -, -⟩ := h.target ref (by rw [hx]; rfl)
    obtain ⟨hlive, hout⟩ := (htargets (by rw [hx]; rfl)).outTx ref obj obj' hobj hobj'
    rcases h.recorded ref txId hx obj hlive with heq | hended
    · rcases hout with hsame | hended
      · exact .inl (hsame.trans heq)
      · exact .inr (heq ▸ hended)
    · exact .inr (hended.later hst.reports)
  entered ref href := by
    obtain ⟨obj, hobj, hfail⟩ := h.entered ref href
    exact hst.objects ref obj hobj hfail
  loaded := h.loaded

theorem OutgoingSpot.later (h : K.OutgoingSpot orderId env s spot) (hst : K.Later env s t)
    (htargets : ((orderMoves K env).pos spot).act.sends = true → K.Targets orderId env s t) :
    K.OutgoingSpot orderId env t spot := by
  cases spot with
  | runs x => exact OutgoingPos.later h hst htargets
  | waits x op => exact ⟨h.1.later hst htargets, h.2⟩
  | has x op r => exact ⟨h.1.later hst htargets, h.2⟩

theorem Outgoing.spots_later (h : K.Outgoing orderId env s R) (hst : K.Later env s t)
    (htargets : K.Quiet env R ∨ K.Targets orderId env s t) :
    ∀ spot ∈ R, K.OutgoingSpot orderId env t spot := by
  intro spot hspot
  refine (h.spots spot hspot).later hst fun hsends => ?_
  rcases htargets with hquiet | htargets
  · rw [hquiet spot hspot] at hsends
    cases hsends
  · exact htargets

theorem turn_suspended (hR : Suspended R) :
    ∀ x R', R = .runs x ::ₘ R' → K.OutgoingTurn orderId env s R' x :=
  fun x _ heq => absurd (heq ▸ Multiset.mem_cons_self _ _) (hR x)

/-! ### The objects keep their transactions -/

variable (K env) in
/-- The object has the same transaction and failures, and has failed only by them. -/
structure SameFailures (obj obj' : OrderObj E) : Prop where
  entityId : OrderEntity.entityId obj'.entity = OrderEntity.entityId obj.entity
  outTx : K.outTx obj'.entity = K.outTx obj.entity
  retryTxNum : obj'.retryTxNum = obj.retryTxNum
  fail : OrderEntity.state obj'.entity = K.outgoingFail →
    OrderEntity.state obj.entity = K.outgoingFail ∨ K.retryMaxNum env < obj.retryTxNum

variable (K env) in
/-- The objects are the same in both stores, up to their states. -/
structure SameObjects (s t : OrderStore E) : Prop where
  row : t.row = s.row
  reports : s.reports ⊆ t.reports
  started : t.started = s.started
  processing : ∀ ref, t.processing = some ref → s.processing = some ref
  forth : ∀ (ref : Ref) (obj : OrderObj E), s.heap[ref]? = some obj →
    ∃ obj', t.heap[ref]? = some obj' ∧ K.SameFailures env obj obj'
  back : ∀ (ref : Ref) (obj' : OrderObj E), t.heap[ref]? = some obj' →
    ∃ obj, s.heap[ref]? = some obj ∧ K.SameFailures env obj obj'

theorem SameFailures.refl (obj : OrderObj E) : K.SameFailures env obj obj :=
  ⟨rfl, rfl, rfl, .inl⟩

theorem SameFailures.spent (h : K.SameFailures env obj obj') (hspent : K.Spent env obj') :
    K.Spent env obj := by
  rcases hspent with hfail | hover
  · exact h.fail hfail
  · exact .inr (h.retryTxNum ▸ hover)

theorem SameObjects.of_heap (hrow : t.row = s.row) (hreports : s.reports ⊆ t.reports)
    (hstarted : t.started = s.started) (hheap : t.heap = s.heap)
    (hprocessing : ∀ ref, t.processing = some ref → s.processing = some ref) :
    K.SameObjects env s t where
  row := hrow
  reports := hreports
  started := hstarted
  processing := hprocessing
  forth _ obj hobj := ⟨obj, hheap ▸ hobj, .refl obj⟩
  back _ obj' hobj' := ⟨obj', hheap ▸ hobj', .refl obj'⟩

theorem sameObjects_modify {ref : Ref} {f : OrderObj E → OrderObj E}
    (hf : ∀ obj, s.heap[ref]? = some obj → K.SameFailures env obj (f obj)) :
    K.SameObjects env s (s.modify ref f) where
  row := rfl
  reports := fun _ h => h
  started := rfl
  processing := fun _ h => h
  forth ref' obj hobj := by
    obtain ⟨obj', hobj', ⟨rfl, rfl⟩ | ⟨-, rfl⟩⟩ := modify_object ref f hobj
    · exact ⟨f obj, hobj', hf obj hobj⟩
    · exact ⟨obj', hobj', .refl obj'⟩
  back ref' obj' hobj' := by
    obtain ⟨obj, hobj, ⟨rfl, rfl⟩ | ⟨-, rfl⟩⟩ := object_modify hobj'
    · exact ⟨obj, hobj, hf obj hobj⟩
    · exact ⟨obj', hobj, .refl obj'⟩

/-- The object in the map was there before. -/
theorem SameObjects.live (h : K.SameObjects env s t) {ref : Ref} (hlive : t.Live ref obj') :
    ∃ obj, s.Live ref obj ∧ K.SameFailures env obj obj' := by
  obtain ⟨obj, hobj, hsame⟩ := h.back ref obj' hlive.2
  exact ⟨obj, ⟨h.processing ref hlive.1, hobj⟩, hsame⟩

theorem SameObjects.later (h : K.SameObjects env s t) : K.Later env s t where
  reports := h.reports
  objects ref obj hobj hover := by
    obtain ⟨obj', hobj', hsame⟩ := h.forth ref obj hobj
    refine ⟨obj', hobj', fun hfail => ?_⟩
    rw [hsame.retryTxNum]
    exact (hsame.fail hfail).elim hover id

theorem SameObjects.targets (h : K.SameObjects env s t) : K.Targets orderId env s t where
  object ref obj hobj hspent hlive := by
    obtain ⟨obj', hobj', hsame⟩ := h.forth ref obj hobj
    exact ⟨obj', hobj', fun hspent' => hspent (hsame.spent hspent'), fun ref' href' =>
      hlive ref' (h.processing ref' href')⟩
  outTx ref obj obj' hobj hlive := by
    obtain ⟨obj₀, hlive₀, hsame⟩ := h.live hlive
    cases hobj.symm.trans hlive₀.2
    exact ⟨hlive₀, .inl hsame.outTx⟩

theorem Shows.later {e e' : E} (h : K.Shows orderId s e) (hstarted : t.started = s.started)
    (hreports : s.reports ⊆ t.reports) (hout : K.outTx e' = K.outTx e) :
    K.Shows orderId t e' := by
  intro txId hmem
  rw [hstarted] at hmem
  rw [hout]
  exact (h txId hmem).imp_right fun hended => hended.later hreports

/-- The objects keep their transactions, and one that has failed with the row does not wait. -/
theorem Outgoing.same (h : K.Outgoing orderId env s R) (hR : Suspended R)
    (hst : K.SameObjects env s t)
    (hfinal : ∀ ref obj obj', s.Live ref obj → t.heap[ref]? = some obj' →
      OrderEntity.state s.row = K.outgoingFail → K.Final (OrderEntity.state obj.entity) →
        K.retryMaxNum env < obj.retryTxNum ∨ K.Final (OrderEntity.state obj'.entity)) :
    K.Outgoing orderId env t R where
  entityId := hst.row ▸ h.entityId
  row hrow := by
    rw [hst.row] at hrow
    obtain ⟨hout, hended, hquiet, hlive⟩ := h.row hrow
    refine ⟨hst.row ▸ hout, fun txId hmem => ?_, hquiet, fun ref obj' hobj' => ?_⟩
    · rw [hst.started] at hmem
      exact (hended txId hmem).later hst.reports
    · obtain ⟨obj, hobj, hsame⟩ := hst.live hobj'
      rw [hsame.retryTxNum]
      rcases hlive ref obj hobj with hover | ⟨hend, hnone⟩
      · exact .inl hover
      · exact (hfinal ref obj obj' hobj hobj'.2 hrow hend).imp_right fun hend' => ⟨hend', hnone⟩
  heap ref obj' hobj' := by
    obtain ⟨obj, hobj, hsame⟩ := hst.back ref obj' hobj'
    obtain ⟨hid, hout⟩ := h.heap ref obj hobj
    exact ⟨hsame.entityId.trans hid, fun hspent => hsame.outTx.trans (hout (hsame.spent hspent))⟩
  shows ref obj' hobj' := by
    obtain ⟨obj, hobj, hsame⟩ := hst.live hobj'
    exact (h.shows ref obj hobj).later hst.started hst.reports hsame.outTx
  quiet ref obj' hobj' hspent := by
    obtain ⟨obj, hobj, hsame⟩ := hst.live hobj'
    exact h.quiet ref obj hobj (hsame.spent hspent)
  spots := h.spots_later hst.later (.inr hst.targets)
  turn := turn_suspended hR

theorem Outgoing.of_heap (h : K.Outgoing orderId env s R) (hR : Suspended R)
    (hrow : t.row = s.row) (hreports : s.reports ⊆ t.reports) (hstarted : t.started = s.started)
    (hheap : t.heap = s.heap)
    (hprocessing : ∀ ref, t.processing = some ref → s.processing = some ref) :
    K.Outgoing orderId env t R := by
  refine h.same hR (.of_heap hrow hreports hstarted hheap hprocessing)
    fun ref o o' ho ho' _ hfinal => ?_
  rw [hheap] at ho'
  cases ho.2.symm.trans ho'
  exact .inr hfinal

theorem Outgoing.sameCore (h : K.Outgoing orderId env s R) (hR : Suspended R)
    (hst : s.SameCore t) : K.Outgoing orderId env t R :=
  h.of_heap hR hst.row (by simp [hst.reports]) hst.started hst.heap
    fun _ href => hst.processing ▸ href

theorem OutgoingTurn.same (h : K.OutgoingTurn orderId env s R x) (hst : K.SameObjects env s t)
    (hstate : ∀ (ref : Ref) (obj obj' : OrderObj E), s.heap[ref]? = some obj →
      t.heap[ref]? = some obj' →
        (OrderEntity.state obj'.entity : S) = OrderEntity.state obj.entity) :
    K.OutgoingTurn orderId env t R x where
  delivered message hx hopens hguarded ref obj' hobj' hwait := by
    obtain ⟨obj, hobj, hsame⟩ := hst.live hobj'
    rw [hstate ref obj obj' hobj.2 hobj'.2] at hwait
    rw [hsame.retryTxNum]
    exact h.delivered message hx hopens hguarded ref obj hobj hwait
  holding ref txId hx ref' obj' hobj' := by
    obtain ⟨obj, hobj, hsame⟩ := hst.live hobj'
    rw [hsame.outTx]
    exact (h.holding ref txId hx ref' obj hobj).later hst.reports
  report txId hx ref obj' hobj' hout := by
    obtain ⟨obj, hobj, hsame⟩ := hst.live hobj'
    rw [hsame.outTx] at hout
    rw [hsame.retryTxNum]
    exact h.report txId hx ref obj hobj hout
  loaded request e hx := by
    obtain ⟨hquiet, hshows, hrow⟩ := h.loaded request e hx
    refine ⟨hquiet, hshows.later hst.started hst.reports rfl, fun hfail => ?_⟩
    rw [hst.row] at hfail
    exact hrow hfail

/-- The function goes on as before. -/
theorem Outgoing.stay (h : K.Outgoing orderId env s (.runs x ::ₘ R)) (hR : Suspended R)
    (hst : K.SameObjects env s t)
    (hstate : ∀ (ref : Ref) (obj obj' : OrderObj E), s.heap[ref]? = some obj →
      t.heap[ref]? = some obj' →
        (OrderEntity.state obj'.entity : S) = OrderEntity.state obj.entity) :
    K.Outgoing orderId env t (.runs x ::ₘ R) := by
  obtain ⟨hothers, hknown, hsends, hentered, hturn⟩ := (outgoing_cons hR).1 h
  refine (outgoing_cons hR).2 ⟨hothers.same hR hst fun ref obj obj' hobj hobj' _ hfinal => ?_,
    ⟨hknown.later hst.later fun _ => hst.targets, fun hsent => ⟨?_, ?_⟩, ?_, ?_⟩⟩
  · rw [hstate ref obj obj' hobj.2 hobj']
    exact .inr hfinal
  · rw [hst.row]
    exact (hsends hsent).1
  · intro ref obj' hobj' hspent
    obtain ⟨obj, hobj, hsame⟩ := hst.live hobj'
    exact (hsends hsent).2 ref obj hobj (hsame.spent hspent)
  · intro hrow ref obj' hobj' heq
    obtain ⟨obj, hobj, hsame⟩ := hst.live hobj'
    rw [hst.row] at hrow
    rw [hsame.retryTxNum]
    exact hentered hrow ref obj hobj heq
  · rintro _ ⟨⟩
    exact (hturn x rfl).same hst hstate

/-- The function goes on to something that the invariant is not about. -/
theorem Beside.calm {act : OrderAct E} (h : K.Beside orderId env s R (.runs x))
    (hst : K.Later env s t) (hact : act.calm = true) (hsends : act.sends = false)
    (hrow : t.row = s.row)
    (hlive : ∀ ref obj', t.Live ref obj' → ∃ obj, s.Live ref obj ∧
      (K.retryMaxNum env < obj.retryTxNum → K.retryMaxNum env < obj'.retryTxNum)) :
    K.Beside orderId env t R (.runs { x with act }) where
  known := (OutgoingPos.calm h.known hact).later hst fun hsent => by
    cases hsends.symm.trans hsent
  sends hsent := by cases hsends.symm.trans hsent
  entered hfail ref obj' hobj' heq := by
    obtain ⟨obj, hobj, hover⟩ := hlive ref obj' hobj'
    rw [hrow] at hfail
    exact hover (h.entered hfail ref obj hobj heq)
  turn := by
    rintro _ ⟨⟩
    exact .of_rests (rests_of_calm hact)

theorem sameFailures_setState {st : S}
    (hfail : st = K.outgoingFail → K.retryMaxNum env < obj.retryTxNum) :
    K.SameFailures env obj (obj.setState st) where
  entityId := OrderEntity.entityId_setState st obj.entity
  outTx := K.outTx_setState st obj.entity
  retryTxNum := rfl
  fail hstate := by
    rw [OrderObj.setState, OrderEntity.state_setState] at hstate
    exact .inr (hfail hstate)

/-- The object gets another state. -/
theorem Outgoing.setState {ref : Ref} {st : S} {act : OrderAct E}
    (h : K.Outgoing orderId env s (.runs x ::ₘ R)) (hR : Suspended R) (hact : act.calm = true)
    (hsends : act.sends = false)
    (hfail : st = K.outgoingFail → ∀ obj, s.heap[ref]? = some obj →
      K.retryMaxNum env < obj.retryTxNum)
    (hfinal : ¬ K.Final st → OrderEntity.state s.row = K.outgoingFail →
      ∀ obj, s.Live ref obj → K.retryMaxNum env < obj.retryTxNum) :
    K.Outgoing orderId env (s.modify ref (OrderObj.setState st)) (.runs { x with act } ::ₘ R) := by
  obtain ⟨hothers, hown⟩ := (outgoing_cons hR).1 h
  have hst : K.SameObjects env s (s.modify ref (OrderObj.setState st)) :=
    sameObjects_modify fun obj hobj => sameFailures_setState fun hst => hfail hst obj hobj
  refine (outgoing_cons hR).2 ⟨hothers.same hR hst fun ref' obj obj' hobj hobj' hrow hend => ?_,
    hown.calm hst.later hact hsends rfl fun ref' obj' hobj' => ?_⟩
  · obtain ⟨obj, hobj₀, hcases⟩ := object_modify hobj'
    cases hobj.2.symm.trans hobj₀
    rcases hcases with ⟨rfl, rfl⟩ | ⟨-, rfl⟩
    · by_cases hst : K.Final st
      · refine .inr ?_
        rwa [OrderObj.setState, OrderEntity.state_setState]
      · exact .inl (hfinal hst hrow obj hobj)
    · exact .inr hend
  · obtain ⟨obj, hobj, hsame⟩ := hst.live hobj'
    exact ⟨obj, hobj, fun hover => hsame.retryTxNum ▸ hover⟩

/-! ### The outgoing transaction of an object changes -/

theorem later_modify {ref : Ref} {f : OrderObj E → OrderObj E}
    (hreports : t.reports = s.reports) (hheap : t.heap = (s.modify ref f).heap)
    (hstate : ∀ o, OrderEntity.state (f o).entity = (OrderEntity.state o.entity : S))
    (hnum : ∀ o, o.retryTxNum ≤ (f o).retryTxNum) : K.Later env s t where
  reports := by simp [hreports]
  objects ref' o ho hover := by
    rw [hheap]
    obtain ⟨o', ho', ⟨-, rfl⟩ | ⟨-, rfl⟩⟩ := modify_object ref f ho
    · refine ⟨f o, ho', fun hfail => ?_⟩
      rw [hstate] at hfail
      exact Nat.lt_of_lt_of_le (hover hfail) (hnum o)
    · exact ⟨o', ho', hover⟩

/-- The transaction of a live object is replaced only when it has ended. -/
theorem targets_modify {ref : Ref} {f : OrderObj E → OrderObj E}
    (hreports : t.reports = s.reports) (hheap : t.heap = (s.modify ref f).heap)
    (hprocessing : t.processing = s.processing)
    (hspent : ∀ o, s.heap[ref]? = some o → K.Spent env (f o) → K.Spent env o)
    (hended : ∀ o, s.Live ref o → K.Ended orderId s (K.outTx o.entity)) :
    K.Targets orderId env s t where
  object ref' o ho hnot honly := by
    rw [hheap, hprocessing]
    obtain ⟨o', ho', ⟨rfl, rfl⟩ | ⟨-, rfl⟩⟩ := modify_object ref f ho
    · exact ⟨f o, ho', fun hs => hnot (hspent o ho hs), honly⟩
    · exact ⟨o', ho', hnot, honly⟩
  outTx ref' o o' ho ho' := by
    obtain ⟨o₀, ho₀, hcases⟩ := object_modify (hheap ▸ ho'.2)
    cases ho.symm.trans ho₀
    have hlive : s.Live ref' o := ⟨hprocessing ▸ ho'.1, ho⟩
    refine ⟨hlive, ?_⟩
    rcases hcases with ⟨rfl, rfl⟩ | ⟨-, rfl⟩
    · exact .inr ((hended o hlive).later (by simp [hreports]))
    · exact .inl rfl

/-- The transaction that has been replaced has ended. -/
theorem shows_modify {ref ref' : Ref} {f : OrderObj E → OrderObj E} {obj' : OrderObj E}
    (h : K.Outgoing orderId env s R) (hreports : t.reports = s.reports)
    (hstarted : t.started = s.started) (hheap : t.heap = (s.modify ref f).heap)
    (hprocessing : t.processing = s.processing)
    (hended : ∀ o, s.Live ref o → K.Ended orderId s (K.outTx o.entity))
    (hlive : t.Live ref' obj') : K.Shows orderId t obj'.entity := by
  have hgrow : s.reports ⊆ t.reports := by simp [hreports]
  intro txId hmem
  rw [hstarted] at hmem
  obtain ⟨o, ho, hcases⟩ := object_modify (hheap ▸ hlive.2)
  have hold : s.Live ref' o := ⟨hprocessing ▸ hlive.1, ho⟩
  rcases hcases with ⟨rfl, rfl⟩ | ⟨-, rfl⟩
  · refine .inr (Ended.later ?_ hgrow)
    rcases h.shows ref' o hold txId hmem with rfl | hgone
    · exact hended o hold
    · exact hgone
  · exact (h.shows ref' obj' hold txId hmem).imp_right fun hgone => hgone.later hgrow

/-- A created transaction takes the place of the placeholder, or of one that has failed. -/
theorem Outgoing.record {ref : Ref} {txId : JsString} {f : OrderObj E → OrderObj E}
    (h : K.Outgoing orderId env s (.runs x ::ₘ R)) (hR : Suspended R)
    (hx : x.act = .holding ref txId) (hf : K.SetsOutTx txId f) :
    K.Outgoing orderId env (s.modify ref f)
      (.runs { x with act := .recorded ref txId } ::ₘ R) := by
  obtain ⟨hothers, hown⟩ := (outgoing_cons hR).1 h
  have hpos : K.OutgoingPos orderId env s x := hown.known
  obtain ⟨hrow, hlive⟩ := hown.sends (by change x.act.sends = true; rw [hx]; rfl)
  obtain ⟨obj, hobj, hnot, honly⟩ := hpos.target ref (by rw [hx]; rfl)
  have hended : ∀ o, s.Live ref o → K.Ended orderId s (K.outTx o.entity) :=
    (hown.turn x rfl).holding ref txId hx ref
  have hstate : ∀ o, OrderEntity.state (f o).entity = (OrderEntity.state o.entity : S) := by
    intro o
    rw [(hf o).1, K.state_setOutTx]
  have hspent : ∀ o, K.Spent env (f o) → K.Spent env o := by
    intro o
    simp only [Spent, hstate, (hf o).2]
    exact id
  have hlater : K.Later env s (s.modify ref f) :=
    later_modify rfl rfl hstate fun o => Nat.le_of_eq (hf o).2.symm
  have htargets : K.Targets orderId env s (s.modify ref f) :=
    targets_modify rfl rfl rfl (fun o _ => hspent o) hended
  have hnone : ∀ ref' o', (s.modify ref f).Live ref' o' → ¬ K.Spent env o' := by
    intro ref' o' ho'
    obtain ⟨o, ho, ⟨-, rfl⟩ | ⟨-, rfl⟩⟩ := object_modify ho'.2
    · exact fun hs => hlive ref' o ⟨ho'.1, ho⟩ (hspent o hs)
    · exact hlive ref' o' ⟨ho'.1, ho⟩
  have hothers' : K.Outgoing orderId env (s.modify ref f) R := by
    refine ⟨h.entityId, fun hfail => absurd hfail hrow,
      forall_modify (fun ref' o _ => h.heap ref' o) fun o ho => ?_,
      fun ref' o' ho' => shows_modify h rfl rfl rfl rfl hended ho',
      fun ref' o' ho' hs => absurd hs (hnone ref' o' ho'),
      hothers.spots_later hlater (.inr htargets), turn_suspended hR⟩
    cases hobj.symm.trans ho
    refine ⟨?_, fun hs => absurd (hspent obj hs) hnot⟩
    rw [(hf obj).1, K.entityId_setOutTx]
    exact (h.heap ref obj ho).entityId
  refine (outgoing_cons hR).2 ⟨hothers', ?_, fun _ => ⟨hrow, hnone⟩,
    fun hfail => absurd hfail hrow, ?_⟩
  · refine ⟨nofun, nofun, ?_, ?_, ?_, (hpos.later hlater fun _ => htargets).entered, nofun⟩
    · rintro _ ⟨⟩
      exact htargets.object ref obj hobj hnot honly
    · rintro _ _ (⟨⟨⟩⟩ | ⟨⟨⟩⟩)
      exact hpos.txId ref txId (.inl hx)
    · rintro _ _ ⟨⟩ o' ho'
      exact .inl (outTx_modify hf ho'.2)
  · rintro _ ⟨⟩
    exact .of_rests rfl

/-- The failure of the transaction is accepted: the object gets the placeholder. -/
theorem Outgoing.reject {ref : Ref} {obj : OrderObj E} {txId : JsString}
    {f : OrderObj E → OrderObj E} (h : K.Outgoing orderId env s (.runs x ::ₘ R))
    (hR : Suspended R) (hx : x.act = .report K.outgoing false txId) (hlive : s.Live ref obj)
    (hwait : OrderEntity.state obj.entity = K.outgoingWait) (htxId : txId = K.outTx obj.entity)
    (hf : K.Retries f) : K.Outgoing orderId env { s with
      heap := s.heap.modify ref f, accepted := (ref, txId) :: s.accepted }
      (.runs { x with act := .failed ref } ::ₘ R) := by
  obtain ⟨hothers, hown⟩ := (outgoing_cons hR).1 h
  have hpos : K.OutgoingPos orderId env s x := hown.known
  have hnum := (hown.turn x rfl).report txId hx ref obj hlive htxId.symm
  have hended : ∀ o, s.Live ref o → K.Ended orderId s (K.outTx o.entity) := by
    intro o ho
    cases hlive.2.symm.trans ho.2
    exact .inr (htxId ▸ hpos.report _ _ _ hx)
  have hfail : OrderEntity.state obj.entity ≠ K.outgoingFail := by
    intro heq
    exact not_final (.inr (hwait.symm.trans heq).symm) (.inr (.inl rfl))
  have hstate : ∀ o, OrderEntity.state (f o).entity = (OrderEntity.state o.entity : S) := by
    intro o
    rw [(hf o).1, K.state_setOutTx]
  have hover : ∀ o, K.Spent env o → K.Spent env (f o) := by
    rintro o (hs | hs)
    · exact .inl ((hstate o).trans hs)
    · exact .inr ((hf o).2 ▸ Nat.lt_succ_of_lt hs)
  -- the failure exceeds the limit only when no other function sends
  have hspent : K.Spent env (f obj) → K.Quiet env R := by
    rintro (hs | hs)
    · exact absurd ((hstate obj).symm.trans hs) hfail
    · rcases hnum with hnum | hquiet
      · rw [(hf obj).2] at hs
        exact absurd hs (Nat.not_lt_of_le hnum)
      · exact hquiet
  have hlater : K.Later env s { s with
      heap := s.heap.modify ref f, accepted := (ref, txId) :: s.accepted } :=
    later_modify rfl rfl hstate fun o => (hf o).2 ▸ Nat.le_succ _
  have htargets : K.Quiet env R ∨ K.Targets orderId env s { s with
      heap := s.heap.modify ref f, accepted := (ref, txId) :: s.accepted } := by
    by_cases hs : K.Spent env (f obj)
    · exact .inl (hspent hs)
    · refine .inr (targets_modify rfl rfl rfl (fun o ho hso => ?_) hended)
      cases hlive.2.symm.trans ho
      exact absurd hso hs
  refine (outgoing_cons hR).2 ⟨⟨h.entityId, fun hrow => ?_,
      forall_modify (fun ref' o _ => h.heap ref' o) fun o ho => ?_,
      fun ref' o' ho' => shows_modify hothers rfl rfl rfl rfl hended ho', ?_,
      hothers.spots_later hlater htargets, turn_suspended hR⟩,
    hown.calm hlater rfl rfl rfl fun ref' o' ho' => ?_⟩
  · obtain ⟨hout, hgone, hquiet, hdone⟩ := hothers.row hrow
    refine ⟨hout, hgone, hquiet, fun ref' o' ho' => ?_⟩
    obtain ⟨o, ho, ⟨rfl, rfl⟩ | ⟨-, rfl⟩⟩ := object_modify (s := s) ho'.2
    · cases hlive.2.symm.trans ho
      rcases hdone ref' obj hlive with hs | ⟨hend, -⟩
      · exact .inl ((hf obj).2 ▸ Nat.lt_succ_of_lt hs)
      · exact absurd (hwait ▸ hend) (not_final (.inr rfl))
    · exact hdone ref' o' ⟨ho'.1, ho⟩
  · have hid := (h.heap ref o ho).entityId
    refine ⟨?_, fun _ => ?_⟩
    · rw [(hf o).1, K.entityId_setOutTx]
      exact hid
    · rw [(hf o).1, K.outTx_setOutTx]
      exact hid
  · intro ref' o' ho' hs
    obtain ⟨o, ho, ⟨rfl, rfl⟩ | ⟨-, rfl⟩⟩ := object_modify (s := s) ho'.2
    · cases hlive.2.symm.trans ho
      exact hspent hs
    · exact hothers.quiet ref' o' ⟨ho'.1, ho⟩ hs
  · obtain ⟨o, ho, ⟨rfl, rfl⟩ | ⟨-, rfl⟩⟩ := object_modify (s := s) ho'.2
    · exact ⟨o, ⟨ho'.1, ho⟩, fun hs => (hf o).2 ▸ Nat.lt_succ_of_lt hs⟩
    · exact ⟨o', ⟨ho'.1, ho⟩, id⟩

theorem Later.of_heap (hreports : s.reports ⊆ t.reports) (hheap : t.heap = s.heap) :
    K.Later env s t where
  reports := hreports
  objects _ o ho hover := ⟨o, hheap ▸ ho, hover⟩

theorem Targets.of_heap (hheap : t.heap = s.heap) (hprocessing : t.processing = s.processing) :
    K.Targets orderId env s t where
  object ref o ho hnot honly := ⟨o, hheap ▸ ho, hnot, hprocessing ▸ honly⟩
  outTx ref o o' ho ho' := by
    have hlive : s.Live ref o' := ⟨hprocessing ▸ ho'.1, hheap ▸ ho'.2⟩
    cases ho.symm.trans hlive.2
    exact ⟨hlive, .inl rfl⟩

/-- A transaction is started for an order that does not fail. -/
theorem Outgoing.started {txId : JsString} (h : K.Outgoing orderId env s (.runs x ::ₘ R))
    (hR : Suspended R) (hrow : OrderEntity.state s.row ≠ K.outgoingFail)
    (hlive : ∀ ref obj, s.Live ref obj → ¬ K.Spent env obj ∧
      (txId = K.outTx obj.entity ∨ K.Ended orderId s txId)) :
    K.Outgoing orderId env { s with started := txId :: s.started }
      (.runs { x with act := .starting } ::ₘ R) := by
  obtain ⟨hothers, hown⟩ := (outgoing_cons hR).1 h
  have hpos : K.OutgoingPos orderId env s x := hown.known
  have hlater : K.Later env s { s with started := txId :: s.started } :=
    .of_heap (fun _ h => h) rfl
  have htargets : K.Targets orderId env s { s with started := txId :: s.started } :=
    .of_heap rfl rfl
  refine (outgoing_cons hR).2 ⟨⟨h.entityId, fun hfail => absurd hfail hrow, h.heap, ?_,
    fun ref o ho hs => absurd hs (hlive ref o ho).1, hothers.spots_later hlater (.inr htargets),
    turn_suspended hR⟩, (hpos.calm rfl).later hlater fun _ => htargets,
    fun _ => ⟨hrow, fun ref o ho => (hlive ref o ho).1⟩, fun hfail => absurd hfail hrow, ?_⟩
  · intro ref o ho txId' hmem
    rcases List.mem_cons.1 hmem with rfl | hmem
    · exact (hlive ref o ho).2
    · exact h.shows ref o ho txId' hmem
  · rintro _ ⟨⟩
    exact .of_rests rfl

/-- A new object is made while no function sends, from an order that shows what has been
started. -/
theorem Outgoing.newObj {e : E} (h : K.Outgoing orderId env s R) (hR : Suspended R)
    (hquiet : K.Quiet env R) (hshows : K.Shows orderId s e) (hempty : K.Empty orderId e)
    (hrow : OrderEntity.state s.row = K.outgoingFail → OrderEntity.state e = K.outgoingFail) :
    K.Outgoing orderId env (OrderMgr.newObj e s) R where
  entityId := h.entityId
  row hfail := by
    obtain ⟨hout, hgone, -, -⟩ := h.row hfail
    refine ⟨hout, hgone, hquiet, ?_⟩
    rintro ref obj ⟨hprocessing, hobj⟩
    cases hprocessing
    rw [OrderMgr.newObj, List.getElem?_concat_length] at hobj
    cases hobj
    refine .inr ⟨.inr (.inl (hrow hfail)), fun spot hspot hentered => ?_⟩
    obtain ⟨o, ho, -⟩ := (h.spots spot hspot).pos.entered _ hentered
    exact absurd (List.getElem?_eq_some_iff.1 ho).1 (Nat.lt_irrefl _)
  heap := by
    refine forall_newObj h.heap ⟨hempty.entityId, ?_⟩
    rintro (hfail | hover)
    · exact hempty.outTx hfail
    · exact absurd hover (Nat.not_lt_zero _)
  shows := by
    rintro ref obj ⟨hprocessing, hobj⟩
    cases hprocessing
    rw [OrderMgr.newObj, List.getElem?_concat_length] at hobj
    cases hobj
    exact hshows
  quiet _ _ _ _ := hquiet
  spots := by
    refine h.spots_later ⟨fun _ h => h, fun ref o ho hover => ⟨o, ?_, hover⟩⟩ (.inl hquiet)
    rw [OrderMgr.newObj, List.getElem?_append_left (List.getElem?_eq_some_iff.1 ho).1]
    exact ho
  turn := turn_suspended hR

/-- The row is written: an order that has failed with an object that is in the map. -/
theorem Outgoing.setRow {e : E} (h : K.Outgoing orderId env s R) (hR : Suspended R)
    (hid : OrderEntity.entityId e = orderId)
    (hfail : OrderEntity.state e = K.outgoingFail → K.outTx e = orderId ∧
      ∃ ref obj, s.Live ref obj ∧ K.Spent env obj) :
    K.Outgoing orderId env { s with row := e } R where
  entityId := hid
  row hrow := by
    obtain ⟨hout, ref, obj, hlive, hspent⟩ := hfail hrow
    have hempty : K.outTx obj.entity = orderId := (h.heap ref obj hlive.2).outTx hspent
    refine ⟨hout, fun txId hmem => ?_, h.quiet ref obj hlive hspent, fun ref' obj' hlive' => ?_⟩
    · rcases h.shows ref obj hlive txId hmem with heq | hended
      · exact .inl (heq.trans hempty)
      · exact hended
    · cases hlive.1.symm.trans hlive'.1
      cases hlive.2.symm.trans hlive'.2
      refine or_iff_not_imp_left.2 fun hnot => ?_
      have hstate : OrderEntity.state obj.entity = K.outgoingFail := hspent.resolve_right hnot
      refine ⟨.inr (.inl hstate), fun spot hspot hentered => hnot ?_⟩
      -- a function that has entered the object keeps it from failing without its failures
      obtain ⟨o, ho, hover⟩ := (h.spots spot hspot).pos.entered ref hentered
      cases hlive.2.symm.trans ho
      exact hover hstate
  heap := h.heap
  shows := h.shows
  quiet := h.quiet
  spots := h.spots_later (.of_heap (fun _ hreport => hreport) rfl) (.inr (.of_heap rfl rfl))
  turn := turn_suspended hR

end OrderKind

end CotServer
