import CotServer.Verify.Order.Outgoing

/-!
# Failed orders have no live outgoing transaction

`keepsFailed` is the condition on the steps of a run, and `outgoing_invariant` shows that the runs
that meet it keep the invariant.
-/

namespace CotServer

open Async Moves

variable {E S : Type} [OrderEntity E S]

/-- The object in the map. -/
def OrderStore.live {E : Type} (s : OrderStore E) : Option (OrderObj E) :=
  s.processing.bind fun ref => s.heap[ref]?

theorem OrderStore.Live.eq_live {E : Type} {s : OrderStore E} {ref : Ref} {obj : OrderObj E}
    (h : s.Live ref obj) : s.live = some obj := by
  rw [live, h.1]
  exact h.2

theorem OrderStore.exists_live {E : Type} {s : OrderStore E} {obj : OrderObj E}
    (h : s.live = some obj) : ∃ ref, s.Live ref obj := by
  obtain ⟨ref, hprocessing, hobj⟩ := Option.bind_eq_some_iff.1 h
  exact ⟨ref, hprocessing, hobj⟩

theorem OrderStore.Live.unique {E : Type} {s : OrderStore E} {ref ref' : Ref}
    {obj obj' : OrderObj E} (h : s.Live ref obj) (h' : s.Live ref' obj') :
    ref' = ref ∧ obj' = obj := by
  cases h.1.symm.trans h'.1
  cases h.2.symm.trans h'.2
  exact ⟨rfl, rfl⟩

namespace OrderKind

section

variable (K : OrderKind E S) (mgr : OrderMgr E S) (env : OrderEnv) [DecidableEq S]

instance (orderId : JsString) (s : OrderStore E) (txId : JsString) :
    Decidable (K.Ended orderId s txId) := inferInstanceAs (Decidable (_ ∨ _))

instance (orderId : JsString) (s : OrderStore E) (e : E) : Decidable (K.Shows orderId s e) :=
  inferInstanceAs (Decidable (∀ txId ∈ s.started, _))

instance (obj : OrderObj E) : Decidable (K.Spent env obj) := inferInstanceAs (Decidable (_ ∨ _))

/-- An object may be made: no function sends, every started transaction that has not failed is that
of the order, and the order has not failed since it was read. -/
def mayMake (s : OrderStore E) (sending : Bool) (e : E) : Bool :=
  !sending && K.Shows (OrderEntity.entityId e) s e &&
    (OrderEntity.state s.row ≠ K.outgoingFail || OrderEntity.state e = K.outgoingFail)

/-- The condition on the steps of a run, of which `sending` says whether a suspended function sends.
A redemption starts a transaction only within the limit. The order is saved as failed only while its
object is in the map. Objects are made, and reports that can exceed the limit are handed out, only
while no function sends. A created transaction only replaces one that has failed. -/
def keepsFailed (s : OrderStore E) (sending : Bool) :
    Action (OrderOp.Ans (E := E) (S := S)) Err OrderEvt OrderChoice → Bool
  | .event (.deliver message _) => !K.opens message || K.guarded || s.live.all fun obj =>
      OrderEntity.state obj.entity ≠ K.outgoingWait || obj.retryTxNum ≤ K.retryMaxNum env
  | .event .setOrderPending => K.mayMake s sending (mgr.setOrderPending s.row)
  | .event .load => K.mayMake s sending s.row
  | .answer (.save entity) .done =>
    OrderEntity.state entity ≠ K.outgoingFail || s.live.any fun obj => K.Spent env obj
  | .resume (.findOneByForce none) (.ok entity) => K.mayMake s sending entity
  | .resume (.getTrans side txId) (.ok _) => !sending || side ≠ K.outgoing || s.live.all fun obj =>
      K.outTx obj.entity ≠ txId || obj.retryTxNum < K.retryMaxNum env
  | .resume op (.ok _) => !op.creates || s.live.all fun obj =>
      K.Ended (OrderEntity.entityId obj.entity) s (K.outTx obj.entity)
  | _ => true

/-- The condition on a step of a pool. -/
def failsInTurn (c : OrderPool E S) (l : Label OrderEvt OrderChoice) : Bool :=
  (Program.action c l).all (K.keepsFailed mgr env c.store (c.tasks.any fun t => K.sends t.op))

/-- The condition on a step, where the functions are suspended at operations. -/
def KeepsFailed (s : OrderStore E) (suspended : OrderOp E S → Prop)
    (a : Action (OrderOp.Ans (E := E) (S := S)) Err OrderEvt OrderChoice) : Prop :=
  ∃ sending, (sending = false → ∀ op, suspended op → K.sends op = false) ∧
    K.keepsFailed mgr env s sending a = true

omit [DecidableEq S] in
/-- The order has the placeholder, no function creates or starts an outgoing transaction for it, and
all that have been started have failed. -/
structure NoneLive (c : OrderPool E S) (e : E) : Prop where
  outTx : K.outTx e = OrderEntity.entityId e
  idle : ∀ t ∈ c.tasks, t.op.creates = false ∧ t.op.starts K.outgoing = false
  ended : ∀ txId ∈ c.store.started, K.Ended (OrderEntity.entityId e) c.store txId

end

variable {K : OrderKind E S} {orderId : JsString} {env : OrderEnv} {s t : OrderStore E}
  {R R' : Multiset (OrderSpot E S)} {x y : OrderPos E} {op : OrderOp E S} {obj obj' : OrderObj E}

/-! ## Moves -/

theorem outgoingWait_ne_outgoingFail : K.outgoingWait ≠ K.outgoingFail :=
  fun h => not_final (.inr rfl) (.inr (.inl h))

theorem incomingWait_ne_outgoingFail : K.incomingWait ≠ K.outgoingFail :=
  fun h => not_final (.inl rfl) (.inr (.inl h))

theorem incomingFail_ne_outgoingFail : K.incomingFail ≠ K.outgoingFail := by
  have hnodup := K.nodup
  simp only [List.nodup_cons, List.mem_cons, not_or] at hnodup
  exact hnodup.2.1.2.1

theorem success_ne_outgoingFail : K.success ≠ K.outgoingFail := by
  have hnodup := K.nodup
  simp only [List.nodup_cons, List.mem_cons, not_or] at hnodup
  exact Ne.symm hnodup.2.2.2.1.1

/-- With a failed row, an object that waits has failures beyond the limit. -/
theorem Outgoing.over_of_row (h : K.Outgoing orderId env s R)
    (hrow : OrderEntity.state s.row = K.outgoingFail) {ref : Ref} (hlive : s.Live ref obj)
    (hwait : ¬ K.Final (OrderEntity.state obj.entity)) : K.retryMaxNum env < obj.retryTxNum := by
  rcases (h.row hrow).live ref obj hlive with hover | ⟨hfinal, -⟩
  · exact hover
  · exact absurd hfinal hwait

/-- A transaction is started only for an order that does not fail. -/
theorem Outgoing.of_opens (h : K.Outgoing orderId env s (.runs x ::ₘ R)) {ref : Ref}
    (hx : K.Opens env x s ref obj) : OrderEntity.state s.row ≠ K.outgoingFail ∧
      ∀ ref obj, s.Live ref obj → ¬ K.Spent env obj := by
  obtain ⟨⟨message, hact, hopens⟩, hlive, hwait, hguarded⟩ := hx
  have hnum : obj.retryTxNum ≤ K.retryMaxNum env := by
    cases hguard : K.guarded with
    | true => exact hguarded hguard
    | false => exact (h.turn x R rfl).delivered message hact hopens hguard ref obj hlive hwait
  refine ⟨fun hrow => ?_, fun ref' obj' hlive' hspent => ?_⟩
  · have hover := h.over_of_row hrow hlive (not_final (.inr hwait))
    exact absurd hover (Nat.not_lt_of_le hnum)
  · obtain ⟨rfl, rfl⟩ := hlive.unique hlive'
    rcases hspent with hfail | hover
    · exact outgoingWait_ne_outgoingFail (hwait.symm.trans hfail)
    · exact absurd hover (Nat.not_lt_of_le hnum)

/-- A function that has done nothing yet, or has made an object. -/
theorem OutgoingPos.fresh (hact : x.act.calm = true) (hentered : x.entered = none) :
    K.OutgoingPos orderId env s x := by
  obtain ⟨act, made, entered⟩ := x
  cases hentered
  have hplain : K.OutgoingPos orderId env s { act := .plain, made } := by
    refine ⟨nofun, nofun, nofun, fun _ _ h => ?_, nofun, nofun, nofun⟩
    rcases h with h | h <;> cases h
  exact hplain.calm hact

theorem Beside.fresh (hact : x.act.calm = true) (hsends : x.act.sends = false)
    (hentered : x.entered = none) : K.Beside orderId env s R (.runs x) where
  known := OutgoingPos.fresh hact hentered
  sends hsent := by cases hsends.symm.trans hsent
  entered _ _ _ _ heq := by cases hentered.symm.trans heq
  turn := by
    rintro _ ⟨⟩
    exact .of_rests (rests_of_calm hact)

/-- A function that has just been started knows only of the report that has come. -/
theorem OutgoingPos.start {e : OrderEvt}
    (hreport : ∀ report, e = .onChain report → report ∈ s.reports) :
    K.OutgoingPos orderId env s e.start where
  arrived report hact := by
    cases e <;> cases hact
    exact hreport report rfl
  report side success txId hact := by cases e <;> cases hact
  target ref href := by cases e <;> cases href
  txId ref txId hact := by cases e <;> rcases hact with hact | hact <;> cases hact
  recorded ref txId hact := by cases e <;> cases hact
  entered ref href := by cases e <;> cases href
  loaded request entity hact := by cases e <;> cases hact

theorem Beside.start {e : OrderEvt} (hreport : ∀ report, e = .onChain report → report ∈ s.reports)
    (hturn : K.OutgoingTurn orderId env s R e.start) :
    K.Beside orderId env s R (.runs e.start) where
  known := OutgoingPos.start hreport
  sends hsent := by cases e <;> cases hsent
  entered _ _ _ _ heq := by cases e <;> cases heq
  turn := by
    rintro _ ⟨⟩
    exact hturn

theorem Enters.calm {st : S} {ref : Ref} {act : OrderAct E} (h : K.Enters st ref act) :
    act.calm = true ∧ act.sends = false := by
  rcases h with ⟨-, rfl⟩ | ⟨-, rfl⟩ <;> exact ⟨rfl, rfl⟩

/-- A function that sends knows the live object. -/
theorem OutgoingPos.started_eq (h : K.OutgoingPos orderId env s x) {ref ref' : Ref}
    {txId : JsString} (hx : x.act = .recorded ref txId) (hlive : s.Live ref' obj) :
    ref' = ref ∧ (txId = K.outTx obj.entity ∨ K.Ended orderId s txId) := by
  obtain ⟨-, -, -, honly⟩ := h.target ref (by rw [hx]; rfl)
  obtain rfl := honly ref' hlive.1
  exact ⟨rfl, (h.recorded ref' txId hx obj hlive).imp_left Eq.symm⟩

theorem Outgoing.move (h : K.Outgoing orderId env s (.runs x ::ₘ R)) (hR : Suspended R)
    (hmove : OrderMove K env x s y t) : K.Outgoing orderId env t (.runs y ::ₘ R) := by
  obtain ⟨hothers, hown⟩ := (outgoing_cons hR).1 h
  have hpos : K.OutgoingPos orderId env s x := hown.known
  have hheap : ∀ {t : OrderStore E}, t.row = s.row → t.reports = s.reports →
      t.started = s.started → t.heap = s.heap →
      (∀ ref, t.processing = some ref → s.processing = some ref) →
      K.Outgoing orderId env t (.runs x ::ₘ R) := by
    intro t hrow hreports hstarted hheap hprocessing
    have hgrow : s.reports ⊆ t.reports := by simp [hreports]
    refine h.stay hR (.of_heap hrow hgrow hstarted hheap hprocessing) fun ref o o' ho ho' => ?_
    rw [hheap] at ho'
    cases ho.symm.trans ho'
    rfl
  cases hmove with
  | aux hst =>
    exact hheap hst.row hst.reports hst.started hst.heap fun ref href => hst.processing ▸ href
  | touch ref hf =>
    refine h.stay hR (sameObjects_modify fun o _ => ?_) fun ref' o o' ho ho' => ?_
    · obtain ⟨hid, hstate, -, hout, hnum⟩ := hf o
      exact ⟨hid, hout, hnum, fun hfail => .inl (hstate.symm.trans hfail)⟩
    · obtain ⟨o₀, ho₀, ⟨-, rfl⟩ | ⟨-, rfl⟩⟩ := object_modify ho'
      · cases ho.symm.trans ho₀
        exact (hf o).state
      · cases ho.symm.trans ho₀
        rfl
  | close ref =>
    split
    · exact hheap rfl rfl rfl rfl fun _ hnone => by cases hnone
    · exact hheap rfl rfl rfl rfl fun _ href => href
  | send | reply => exact hheap rfl rfl rfl rfl fun _ href => href
  | record hx hf => exact h.record hR hx hf
  | startOwn hx =>
    obtain ⟨hrow, hlive⟩ := hown.sends (by change x.act.sends = true; rw [hx]; rfl)
    exact h.started hR hrow fun ref' o ho => ⟨hlive ref' o ho, (hpos.started_eq hx ho).2⟩
  | startCurrent hobj hx =>
    rcases hx with hopens | ⟨txId, hx⟩
    · obtain ⟨hrow, hlive⟩ := h.of_opens hopens
      refine h.started hR hrow fun ref' o ho => ⟨hlive ref' o ho, ?_⟩
      obtain ⟨rfl, rfl⟩ := hopens.live.unique ho
      exact .inl rfl
    · obtain ⟨hrow, hlive⟩ := hown.sends (by change x.act.sends = true; rw [hx]; rfl)
      refine h.started hR hrow fun ref' o ho => ⟨hlive ref' o ho, ?_⟩
      obtain ⟨rfl, -⟩ := hpos.started_eq hx ho
      cases hobj.symm.trans ho.2
      exact .inl rfl
  | reject hx hlive hstate htxId hf => exact h.reject hR hx hlive hstate htxId hf
  | giveUp hx hobj hnum =>
    refine h.setState hR rfl rfl (fun _ o ho => ?_) fun hnot => absurd (.inr (.inl rfl)) hnot
    cases hobj.symm.trans ho
    exact hnum
  | refuse =>
    exact h.setState hR rfl rfl (fun heq => absurd heq incomingFail_ne_outgoingFail)
      fun hnot => absurd (.inl rfl) hnot
  | confirm hx hlive hstate =>
    refine h.setState hR rfl rfl (fun heq => absurd heq outgoingWait_ne_outgoingFail)
      fun _ hrow o ho => ?_
    exact h.over_of_row hrow ho (by
      obtain ⟨-, rfl⟩ := hlive.unique ho
      exact not_final (.inl hstate))
  | pass hx href hst hact =>
    refine h.setState hR hact.calm.1 hact.calm.2 (fun heq => ?_) fun _ hrow o ho =>
      hown.entered hrow _ o ho href
    rcases hst with rfl | rfl
    · exact absurd heq outgoingWait_ne_outgoingFail
    · exact absurd heq success_ne_outgoingFail
  | succeed =>
    exact h.setState hR rfl rfl (fun heq => absurd heq success_ne_outgoingFail)
      fun hnot => absurd (.inr (.inr rfl)) hnot
  | newObj hx hact =>
    obtain ⟨hquiet, hshows, hrow⟩ := (hown.turn x rfl).loaded _ _ hx
    have hnew := hothers.newObj hR hquiet hshows (hpos.loaded _ _ hx) hrow
    exact (outgoing_cons hR).2 ⟨hnew, .fresh hact.calm.1 hact.calm.2 rfl⟩

/-! ## Awaits -/

theorem sends_of_creates (h : (op.creates || op.starts K.outgoing) = true) :
    K.sends op = true := by
  cases op <;> first | exact h | cases h

omit [OrderEntity E S] in
theorem aside_sends : x.aside.act.sends = false := by
  have hstays := aside_stays (x := x)
  cases hact : x.aside.act <;> rw [hact] at hstays <;> first | rfl | cases hstays

omit [OrderEntity E S] in
theorem rests_aside : x.aside.act.rests = true := by
  have hstays := aside_stays (x := x)
  cases hact : x.aside.act with
  | report side success txId =>
    cases success
    · rw [hact] at hstays
      cases hstays
    · rfl
  | _ => rw [hact] at hstays; first | rfl | cases hstays

theorem mayWrite_of_silent (h : op.silent K.outgoing = true) : K.MayWrite orderId op := by
  cases op <;> trivial

theorem mayWrite_of_creates (h : (op.creates || op.starts K.outgoing) = true) :
    K.MayWrite orderId op := by
  cases op <;> trivial

/-- A call of a function that does not send. -/
theorem OutgoingOp.of_rests (hrests : x.act.rests = true) (hsends : x.act.sends = false)
    (hop : (op.creates || op.starts K.outgoing) = false) (hwrites : K.MayWrite orderId op) :
    K.OutgoingOp orderId x op where
  rests := hrests
  sends hsent := by cases hsends.symm.trans hsent
  creates hcreates := by cases hop.symm.trans hcreates
  writes := hwrites

/-- A call that creates a transaction or starts it. -/
theorem OutgoingOp.of_sends (hrests : x.act.rests = true) (hsends : x.act.sends = true)
    (hop : (op.creates || op.starts K.outgoing) = true) : K.OutgoingOp orderId x op where
  rests := hrests
  sends _ := sends_of_creates hop
  creates _ := hsends
  writes := mayWrite_of_creates hop

/-- An object that is saved. -/
theorem Outgoing.empty (h : K.Outgoing orderId env s R) {ref : Ref}
    (hobj : s.heap[ref]? = some obj) : K.Empty orderId obj.entity :=
  ⟨(h.heap ref obj hobj).entityId, fun hfail => (h.heap ref obj hobj).outTx (.inl hfail)⟩

/-- A function that does not send awaits a call from its position. -/
theorem Beside.waits (h : K.Beside orderId env s R (.runs x))
    (hpos : K.OutgoingPos orderId env s y) (hop : K.OutgoingOp orderId y op)
    (hsends : y.act.sends = true → x.act.sends = true) (hentered : y.entered = x.entered) :
    K.Beside orderId env s R (.waits y op) where
  known := ⟨hpos, hop⟩
  sends hsent := h.sends (hsends hsent)
  entered hrow ref o ho heq := h.entered hrow ref o ho (hentered ▸ heq)
  turn _ hruns := by cases hruns

/-- A message makes the function create a transaction, or read the config for that. -/
theorem Outgoing.sending {ref : Ref} (h : K.Outgoing orderId env s (.runs x ::ₘ R))
    (hx : K.Opens env x s ref obj) (hop : K.sends op = true) (hwrites : K.MayWrite orderId op) :
    K.Beside orderId env s R (.waits { x with act := .sending ref } op) := by
  have hpos : K.OutgoingPos orderId env s x := h.spots _ (Multiset.mem_cons_self _ _)
  obtain ⟨hrow, hlive⟩ := h.of_opens hx
  refine ⟨⟨⟨nofun, nofun, ?_, fun _ _ hact => ?_, nofun, hpos.entered, nofun⟩, rfl, fun _ => hop,
    fun _ => rfl, hwrites⟩, fun _ => ⟨hrow, hlive⟩, fun hfail => absurd hfail hrow,
    fun _ hruns => by cases hruns⟩
  · rintro _ ⟨⟩
    refine ⟨obj, hx.live.2, hlive ref obj hx.live, fun ref' href' => ?_⟩
    exact Option.some.inj (href'.symm.trans hx.live.1)
  · rcases hact with hact | hact <;> cases hact

/-- A function goes on after its call with the object that it has saved the state of. -/
theorem Outgoing.enters {ref : Ref} (h : K.Outgoing orderId env s (.runs x ::ₘ R))
    (hR : Suspended R) (hobj : s.heap[ref]? = some obj)
    (hstate : OrderEntity.state obj.entity = K.incomingWait ∨
      OrderEntity.state obj.entity = K.outgoingWait) :
    K.Beside orderId env s R (.waits { x.aside with entered := some ref }
      (.saveState (OrderEntity.state obj.entity))) := by
  obtain ⟨-, hknown, -⟩ := (outgoing_cons hR).1 h
  have hnot : OrderEntity.state obj.entity ≠ K.outgoingFail := by
    rcases hstate with hstate | hstate <;> rw [hstate]
    · exact incomingWait_ne_outgoingFail
    · exact outgoingWait_ne_outgoingFail
  have haside : K.OutgoingPos orderId env s x.aside := OutgoingPos.aside hknown
  obtain ⟨harrived, hreport, htarget, htxId, hrecorded, -, hloaded⟩ := haside
  refine ⟨⟨⟨harrived, hreport, htarget, htxId, hrecorded, ?_, hloaded⟩,
    .of_rests rests_aside aside_sends rfl hnot⟩, fun hsent => ?_, ?_,
    fun _ hruns => by cases hruns⟩
  · rintro _ ⟨⟩
    exact ⟨obj, hobj, fun hfail => absurd hfail hnot⟩
  · cases aside_sends.symm.trans hsent
  · intro hrow ref' o ho heq
    cases heq
    cases hobj.symm.trans ho.2
    exact h.over_of_row hrow ho (not_final hstate)

theorem Outgoing.wait (h : K.Outgoing orderId env s (.runs x ::ₘ R)) (hR : Suspended R)
    (hwait : OrderWait K env x s op y) : K.Outgoing orderId env s (.waits y op ::ₘ R) := by
  obtain ⟨hothers, hown⟩ := (outgoing_cons hR).1 h
  have hpos : K.OutgoingPos orderId env s x := hown.known
  refine (outgoing_cons hR).2 ⟨hothers, ?_⟩
  have haside : (op.creates || op.starts K.outgoing) = false → K.MayWrite orderId op →
      K.Beside orderId env s R (.waits x.aside op) := by
    intro hop hwrites
    refine hown.waits hpos.aside (.of_rests rests_aside aside_sends hop hwrites) (fun hsent => ?_)
      OrderPos.aside_entered
    cases aside_sends.symm.trans hsent
  have hstay : K.OutgoingOp orderId x op → K.Beside orderId env s R (.waits x op) :=
    fun hop => hown.waits hpos hop id rfl
  cases hwait with
  | silent hop =>
    refine haside ?_ (mayWrite_of_silent hop)
    cases op <;> first | rfl | simpa [OrderOp.silent] using hop
  | announce hx => exact hstay (.of_rests (by rw [hx]; rfl) (by rw [hx]; rfl) rfl trivial)
  | @save obj ref hobj hx =>
    have hempty := h.empty hobj
    refine hstay ⟨?_, fun hsent => ?_, (fun hop => by cases hop), hempty⟩
    · rcases hx with hx | hx | hx <;> rw [hx] <;> rfl
    · rcases hx with hx | hx | hx
      · rw [hx] at hsent
        cases hsent
      · rw [hx] at hsent
        cases hsent
      · have hid := hpos.txId ref _ (.inr hx)
        rw [← hempty.entityId] at hid
        exact decide_eq_true hid
  | saveLive hlive => exact haside rfl (h.empty hlive.2)
  | saveState hobj hstate => exact h.enters hR hobj hstate
  | retryIncoming => exact haside rfl incomingWait_ne_outgoingFail
  | retryOutgoing => exact haside rfl outgoingWait_ne_outgoingFail
  | prepare hx => exact h.sending hx rfl trivial
  | create hop hx =>
    have hcreates : (op.creates || op.starts K.outgoing) = true := by rw [hop]; rfl
    exact h.sending hx (sends_of_creates hcreates) (mayWrite_of_creates hcreates)
  | createPrepared hop hx =>
    exact hstay (.of_sends (by rw [hx]; rfl) (by rw [hx]; rfl) (by rw [hop]; rfl))
  | start hop hx => exact hstay (.of_sends (by rw [hx]; rfl) (by rw [hx]; rfl) (by simp [hop]))

/-! ## Answers -/

/-- The function has read the row. -/
theorem OutgoingPos.loads {request : IpcRequest} {e : E} (h : K.OutgoingPos orderId env s x)
    (he : K.Empty orderId e) :
    K.OutgoingPos orderId env s { x with act := .loaded request e } where
  arrived report hx := by cases hx
  report side success txId hx := by cases hx
  target ref href := by cases href
  txId ref txId hx := by rcases hx with hx | hx <;> cases hx
  recorded ref txId hx := by cases hx
  entered := h.entered
  loaded request' e' hx := by
    cases hx
    exact he

/-- The report has been looked up. -/
theorem OutgoingPos.looks {side : ChainSide} {txId : JsString}
    (h : K.OutgoingPos orderId env s x) : K.OutgoingPos orderId env s (x.look side txId) := by
  unfold OrderPos.look
  split
  · next report hx =>
    split
    · next heq =>
      obtain ⟨rfl, rfl⟩ := heq
      constructor
      · exact fun _ hact => by cases hact
      · intro side success txId hact
        cases hact
        exact h.arrived report hx
      · exact fun _ href => by cases href
      · exact fun _ _ hact => by rcases hact with hact | hact <;> cases hact
      · exact fun _ _ hact => by cases hact
      · exact h.entered
      · exact fun _ _ hact => by cases hact
    · exact h
  · exact h

/-- The function has a created transaction. -/
theorem OutgoingPos.holds {txId : JsString} (h : K.OutgoingPos orderId env s x)
    (hid : txId ≠ orderId) : K.OutgoingPos orderId env s (x.hold txId) := by
  by_cases hsending : ∃ ref, x.act = .sending ref
  · obtain ⟨ref, hx⟩ := hsending
    rw [hold_sending hx]
    constructor
    · exact fun _ hact => by cases hact
    · exact fun _ _ _ hact => by cases hact
    · intro ref' href
      cases href
      exact h.target ref (by rw [hx]; rfl)
    · intro ref' txId' hact
      rcases hact with hact | hact <;> cases hact
      exact hid
    · exact fun _ _ hact => by cases hact
    · exact h.entered
    · exact fun _ _ hact => by cases hact
  · rwa [hold_other fun ref hx => hsending ⟨ref, hx⟩]

/-- What an answer tells is known. -/
theorem OutgoingPos.receive {r : Except Err op.Ans} (h : K.OutgoingPos orderId env s x)
    (hrow : K.Empty orderId s.row) (hans : OrderAnswer env s op r t) :
    K.OutgoingPos orderId env s (x.receive op r) := by
  cases hans with
  | throws e => rwa [receive_error]
  | aux _ hx => rwa [hx]
  | save | saveState | update | noUpdate => exact h
  | isDevTest =>
    cases env.devTest
    · exact h
    · exact h.calm rfl
  | @find state hstate =>
    cases state with
    | some st => exact h
    | none =>
      simp only [OrderPos.receive]
      split
      · exact h.loads hrow
      · exact h
  | look => exact h.looks
  | create _ _ hid hx =>
    rw [hx]
    exact h.holds fun heq => hid (heq.trans hrow.entityId.symm)

theorem Outgoing.empty_row (h : K.Outgoing orderId env s R) : K.Empty orderId s.row :=
  ⟨h.entityId, fun hfail => (h.row hfail).outTx⟩

/-- What an answer does to the store. -/
theorem Outgoing.answered {r r' : Except Err op.Ans}
    (h : K.Outgoing orderId env s (.has x op r' ::ₘ R)) (hR : Suspended R)
    (hsave : ∀ e, op = .save e → OrderEntity.state e = K.outgoingFail →
      t = s ∨ ∃ ref obj, s.Live ref obj ∧ K.Spent env obj)
    (hans : OrderAnswer env s op r t) : K.Outgoing orderId env t (.has x op r' ::ₘ R) := by
  have hR' : Suspended (.has x op r' ::ₘ R) := hR.cons fun _ heq => by cases heq
  have hop : K.OutgoingOp orderId x op := (h.spots _ (Multiset.mem_cons_self _ _)).2
  cases hans with
  | throws | isDevTest | find | noUpdate | look => exact h
  | aux hst => exact h.sameCore hR' hst
  | create => exact h.of_heap hR' rfl (fun _ hreport => hreport) rfl rfl fun _ href => href
  | save entity =>
    obtain ⟨hid, hout⟩ : K.Empty orderId entity := hop.writes
    by_cases hfail : OrderEntity.state entity = K.outgoingFail
    · rcases hsave entity rfl hfail with heq | hspent
      · exact heq ▸ h
      · exact h.setRow hR' hid fun _ => ⟨hout hfail, hspent⟩
    · exact h.setRow hR' hid fun heq => absurd heq hfail
  | saveState st =>
    refine h.setRow hR' ((OrderEntity.entityId_setState st s.row).trans h.entityId) fun hfail => ?_
    rw [OrderEntity.state_setState] at hfail
    exact absurd hfail hop.writes
  | @update state newState _ =>
    refine h.setRow hR' ((OrderEntity.entityId_setState newState s.row).trans h.entityId)
      fun hfail => ?_
    rw [OrderEntity.state_setState] at hfail
    exact absurd hfail hop.writes

theorem Outgoing.answer {r : Except Err op.Ans}
    (h : K.Outgoing orderId env s (.waits x op ::ₘ R)) (hR : Suspended R)
    (hsave : ∀ e, op = .save e → OrderEntity.state e = K.outgoingFail →
      t = s ∨ ∃ ref obj, s.Live ref obj ∧ K.Spent env obj)
    (hans : OrderAnswer env s op r t) : K.Outgoing orderId env t (.has x op r ::ₘ R) := by
  obtain ⟨hothers, ⟨hpos, hop⟩, hsends, hentered, -⟩ := (outgoing_cons hR).1 h
  refine Outgoing.answered ((outgoing_cons hR).2 ⟨hothers, ?_⟩) hR hsave hans
  refine ⟨⟨hpos.receive h.empty_row hans, hop⟩, fun hsent => hsends (sends_receive hsent), ?_,
    fun _ hruns => by cases hruns⟩
  intro hrow ref o ho heq
  exact hentered hrow ref o ho (OrderPos.receive_entered.symm.trans heq)

section

variable [DecidableEq S] {mgr : OrderMgr E S}

theorem keepsFailed_save {e : E} {o : OrderChoice} {sending : Bool}
    {r : Except Err (OrderOp.save e : OrderOp E S).Ans}
    (h : K.keepsFailed mgr env s sending (.answer (.save e) o) = true)
    (hans : (OrderOp.save e : OrderOp E S).answer env o s = some (r, t))
    (hfail : OrderEntity.state e = K.outgoingFail) :
    t = s ∨ ∃ ref obj, s.Live ref obj ∧ K.Spent env obj := by
  cases o with
  | fails err =>
    cases hans
    exact .inl rfl
  | done =>
    simp only [keepsFailed, hfail, ne_eq, not_true_eq_false, decide_false, Bool.false_or,
      Option.any_eq_true, decide_eq_true_eq] at h
    obtain ⟨obj, hlive, hspent⟩ := h
    obtain ⟨ref, hlive⟩ := OrderStore.exists_live hlive
    exact .inr ⟨ref, obj, hlive, hspent⟩
  | _ => cases hans

omit [DecidableEq S] in
/-- Where no call of a function that sends is suspended, no function sends. -/
theorem Outgoing.quiet_of_ops (h : K.Outgoing orderId env s R) (hR : Suspended R)
    (hops : ∀ op, AtOp R op → K.sends op = false) : K.Quiet env R := by
  intro spot hspot
  by_contra hsent
  have hsends : ((orderMoves K env).pos spot).act.sends = true := by simpa using hsent
  cases spot with
  | runs x => exact hR x hspot
  | waits x op | has x op r =>
    have hop := (h.spots _ hspot).sends_op hsends rfl
    cases hop.symm.trans (hops op ⟨_, hspot, rfl⟩)

theorem mayMake_iff {sending : Bool} {e : E} : K.mayMake s sending e = true ↔
    sending = false ∧ K.Shows (OrderEntity.entityId e) s e ∧
      (OrderEntity.state s.row = K.outgoingFail → OrderEntity.state e = K.outgoingFail) := by
  simp [mayMake, and_assoc, imp_iff_not_or]

theorem Outgoing.resume {r : Except Err op.Ans} {sending : Bool}
    (h : K.Outgoing orderId env s (.has x op r ::ₘ R)) (hR : Suspended R)
    (hsending : sending = false → K.Quiet env R)
    (hkeeps : K.keepsFailed mgr env s sending (.resume op r) = true) :
    K.Outgoing orderId env s (.runs (x.receive op r) ::ₘ R) := by
  obtain ⟨hothers, ⟨hpos, hop⟩, hsends, hentered, -⟩ := (outgoing_cons hR).1 h
  refine (outgoing_cons hR).2 ⟨hothers, hpos, hsends, hentered, ?_⟩
  rintro _ ⟨⟩
  have hsame : (x.receive op r).act = x.act → K.OutgoingTurn orderId env s R (x.receive op r) :=
    fun hact => .of_rests (hact ▸ hop.rests)
  have hhold : ∀ {txId : JsString}, x.receive op r = x.hold txId →
      (∀ ref obj, s.Live ref obj → K.Ended orderId s (K.outTx obj.entity)) →
      K.OutgoingTurn orderId env s R (x.receive op r) := by
    intro txId hx hended
    rcases (hold_act : (x.hold txId).act = x.act ∨ _) with hact | ⟨ref, -, hact⟩
    · exact hsame (hx ▸ hact)
    · rw [hx]
      refine ⟨?_, fun _ _ _ ref obj hlive => hended ref obj hlive, ?_, ?_⟩
      · exact fun _ heq => by cases hact.symm.trans heq
      · exact fun _ heq => by cases hact.symm.trans heq
      · exact fun _ _ heq => by cases hact.symm.trans heq
  have hid : ∀ {ref : Ref} {obj : OrderObj E}, s.Live ref obj →
      OrderEntity.entityId obj.entity = orderId := fun hlive => (h.heap _ _ hlive.2).entityId
  cases r with
  | error e => exact hsame (by rw [receive_error])
  | ok a =>
    cases op with
    | isDevTest =>
      rcases receive_isDevTest (S := S) (x := x) (b := a) with hact | hact
      · exact hsame hact
      · exact .of_rests (by rw [hact]; rfl)
    | findOneByForce state =>
      cases state with
      | some st => exact hsame rfl
      | none =>
        obtain ⟨hnone, hshows, hfail⟩ := mayMake_iff.1 hkeeps
        have hfind : (x.receive (.findOneByForce none : OrderOp E S) (.ok a)).act = x.act ∨ _ :=
          receive_find
        rcases hfind with hact | ⟨request, hact⟩
        · exact hsame hact
        · refine ⟨?_, ?_, ?_, fun _ e heq => ?_⟩
          · exact fun _ heq => by cases hact.symm.trans heq
          · exact fun _ _ heq => by cases hact.symm.trans heq
          · exact fun _ heq => by cases hact.symm.trans heq
          · cases hact.symm.trans heq
            rw [(hpos.loaded request a hact).entityId] at hshows
            exact ⟨hsending hnone, hshows, hfail⟩
    | getTrans side txId =>
      change K.OutgoingTurn orderId env s R (x.look side txId)
      rcases (look_act : (x.look side txId).act = x.act ∨ _) with hact | ⟨success, -, hact⟩
      · exact .of_rests (hact ▸ hop.rests)
      · refine ⟨?_, ?_, fun txId' heq ref obj hlive hout => ?_, ?_⟩
        · exact fun _ heq => by cases hact.symm.trans heq
        · exact fun _ _ heq => by cases hact.symm.trans heq
        · cases hact.symm.trans heq
          simp only [keepsFailed, hlive.eq_live, Option.all_some, hout] at hkeeps
          cases hnone : sending with
          | false => exact .inr (hsending hnone)
          | true => exact .inl (by simpa [hnone] using hkeeps)
        · exact fun _ _ heq => by cases hact.symm.trans heq
    | createInternalIncreaseAsset amount | createInternalTransfer amount
    | createExternalTransfer amount =>
      refine hhold rfl fun ref obj hlive => ?_
      have hended : K.Ended (OrderEntity.entityId obj.entity) s (K.outTx obj.entity) := by
        simpa [keepsFailed, hlive.eq_live, OrderOp.creates] using hkeeps
      rwa [hid hlive] at hended
    | _ => exact hsame rfl

/-! ## Events -/

theorem Outgoing.event (hmgr : K.MgrSafe env mgr) {e : OrderEvt} {sending : Bool}
    (h : K.Outgoing orderId env s R) (hR : Suspended R)
    (hsending : sending = false → K.Quiet env R)
    (hkeeps : K.keepsFailed mgr env s sending (.event e) = true) (hevent : OrderEvent mgr s e t) :
    K.Outgoing orderId env t R ∧ K.Outgoing orderId env t (.runs e.start ::ₘ R) := by
  have hstart : ∀ {t : OrderStore E}, K.Outgoing orderId env t R →
      (∀ report, e = .onChain report → report ∈ t.reports) →
      K.OutgoingTurn orderId env t R e.start →
      K.Outgoing orderId env t R ∧ K.Outgoing orderId env t (.runs e.start ::ₘ R) :=
    fun ht hreport hturn => ⟨ht, (outgoing_cons hR).2 ⟨ht, .start hreport hturn⟩⟩
  cases hevent with
  | aux hst he =>
    refine hstart (h.sameCore hR hst) (fun report heq => ?_) (.of_rests (he ▸ rfl))
    subst heq
    cases he
  | @deliver message again t hst =>
    have ht : K.Outgoing orderId env t R := h.sameCore hR hst
    refine hstart ht (fun _ heq => by cases heq) ⟨fun message hact hopens hguarded => ?_, ?_, ?_,
      ?_⟩
    · cases hact
      intro ref obj hlive hwait
      have hlive : s.Live ref obj := ⟨hst.processing ▸ hlive.1, hst.heap ▸ hlive.2⟩
      simpa [keepsFailed, hopens, hguarded, hlive.eq_live, hwait] using hkeeps
    · exact fun _ _ hact => by cases hact
    · exact fun _ hact => by cases hact
    · exact fun _ _ hact => by cases hact
  | restart hst =>
    refine hstart ?_ (fun _ heq => by cases heq) (.of_rests rfl)
    exact h.of_heap hR hst.row (hst.reports ▸ List.Subset.refl _) hst.started hst.heap
      fun ref href => by cases hst.processing.symm.trans href
  | setOrderPending hidle hinit =>
    obtain ⟨hnone, hshows, hfail⟩ := mayMake_iff.1 hkeeps
    obtain ⟨hid, hout⟩ := hmgr.setOrderPending s.row
    have hentity := hid.trans h.entityId
    rw [hentity] at hshows
    refine hstart (h.newObj hR (hsending hnone) hshows ⟨hentity, fun heq => ?_⟩ hfail)
      (fun _ heq => by cases heq) (.of_rests rfl)
    exact absurd (.inr (.inl heq)) (hmgr.init s.row hinit)
  | load =>
    obtain ⟨hnone, hshows, hfail⟩ := mayMake_iff.1 hkeeps
    rw [h.entityId] at hshows
    exact hstart (h.newObj hR (hsending hnone) hshows h.empty_row hfail)
      (fun _ heq => by cases heq) (.of_rests rfl)
  | onChain report =>
    refine hstart ?_ (fun report' heq => ?_) (.of_rests rfl)
    · exact h.of_heap hR rfl (List.subset_cons_self _ _) rfl rfl fun ref href => href
    · cases heq
      exact List.mem_cons_self
  | serveIpc =>
    refine hstart ?_ (fun _ heq => by cases heq) (.of_rests rfl)
    exact h.of_heap hR rfl (fun _ hreport => hreport) rfl rfl fun ref href => href

/-- The invariant of the runs that meet the condition. -/
theorem outgoing_invariant (hmgr : K.MgrSafe env mgr) :
    (orderMoves K env).Invariant (mgr.program env) (K.KeepsFailed mgr env) OrderEvt.start
      (K.Outgoing orderId env) where
  drop h := h.le (Multiset.le_cons_self _ _)
  move hR h hmove := h.move hR hmove
  wait hR h hwait := h.wait hR hwait
  answer hR h hallowed hans := by
    obtain ⟨sending, -, hkeeps⟩ := hallowed
    refine h.answer hR ?_ (OrderOp.answer_cases hans)
    rintro e rfl hfail
    exact keepsFailed_save hkeeps hans hfail
  resume hR h hallowed := by
    obtain ⟨sending, hsending, hkeeps⟩ := hallowed
    refine h.resume hR (fun hnone => ?_) hkeeps
    have hquiet := h.quiet_of_ops (hR.cons fun _ heq => by cases heq) (hsending hnone)
    exact hquiet.le (Multiset.le_cons_self _ _)
  event hR h hallowed hev hle := by
    obtain ⟨sending, hsending, hkeeps⟩ := hallowed
    have hquiet : sending = false → K.Quiet env _ := fun hnone =>
      (h.quiet_of_ops hR (hsending hnone)).le hle
    have hnext := (h.le hle).event hmgr (hR.mono hle) hquiet hkeeps
      (OrderMgr.event_cases hev)
    split
    · exact hnext.1
    · exact hnext.2

end

/-! ## Runs -/

theorem allows_of_failsInTurn [DecidableEq S] {mgr : OrderMgr E S} {c : OrderPool E S}
    {l : Label OrderEvt OrderChoice} (h : K.failsInTurn mgr env c l = true) :
    Moves.Allows (K.KeepsFailed mgr env) c l := by
  intro a ha
  refine ⟨c.tasks.any fun t => K.sends t.op, fun hnone op hop => ?_, ?_⟩
  · obtain ⟨t, ht, rfl⟩ := hop
    simpa using List.any_eq_false.1 hnone t ht
  · exact (Option.all_eq_true _ _).1 h a ha

/-- An order that has not been taken up yet. -/
theorem Outgoing.init (hfresh : s.Fresh) (hout : K.outTx s.row = OrderEntity.entityId s.row) :
    K.Outgoing (OrderEntity.entityId s.row) env s 0 := by
  have hheap : ∀ {ref : Ref} {obj : OrderObj E}, s.heap[ref]? ≠ some obj := by
    intro ref obj hobj
    simp [hfresh.heap] at hobj
  have hnone : ∀ {spot : OrderSpot E S}, spot ∉ (0 : Multiset (OrderSpot E S)) :=
    Multiset.notMem_zero _
  constructor
  · rfl
  · intro _
    refine ⟨hout, fun txId hmem => ?_, fun _ hspot => absurd hspot hnone,
      fun _ _ hlive => absurd hlive.2 hheap⟩
    simp [hfresh.started] at hmem
  · exact fun _ _ hobj => absurd hobj hheap
  · exact fun _ _ hlive => absurd hlive.2 hheap
  · exact fun _ _ hlive _ => absurd hlive.2 hheap
  · exact fun _ hspot => absurd hspot hnone
  · exact turn_suspended fun _ => hnone

theorem Quiet.idle (h : K.Quiet env R) (hR : K.Outgoing orderId env s R) (hop : AtOp R op) :
    op.creates = false ∧ op.starts K.outgoing = false := by
  rw [← Bool.or_eq_false_iff, ← Bool.not_eq_true]
  intro hsends
  obtain ⟨spot, hspot, heq⟩ := hop
  have hquiet := h spot hspot
  cases spot with
  | runs x => cases heq
  | waits x op =>
    cases heq
    cases hquiet.symm.trans ((hR.spots _ hspot).2.creates hsends)
  | has x op r =>
    cases heq
    cases hquiet.symm.trans (receive_sends ((hR.spots _ hspot).2.creates hsends) hsends)

/-- What the invariant says of a failed order. -/
theorem noneLive_of_holds {c : OrderPool E S}
    (h : (orderMoves K env).Holds (K.Outgoing orderId env) c) :
    (OrderEntity.state c.store.row = K.outgoingFail → K.NoneLive c c.store.row) ∧
      ∀ ref obj, c.store.Live ref obj → OrderEntity.state obj.entity = K.outgoingFail →
        K.NoneLive c obj.entity := by
  obtain ⟨R, htasks, hJ⟩ := h
  have hidle : K.Quiet env (R : Multiset (OrderSpot E S)) →
      ∀ t ∈ c.tasks, t.op.creates = false ∧ t.op.starts K.outgoing = false := by
    intro hquiet t ht
    refine hquiet.idle hJ ?_
    rw [atOp_of_forall₂ htasks]
    exact ⟨t, ht, rfl⟩
  constructor
  · intro hfail
    obtain ⟨hout, hended, hquiet, -⟩ := hJ.row hfail
    rw [← hJ.entityId] at hout hended
    exact ⟨hout, hidle hquiet, hended⟩
  · intro ref obj hlive hfail
    obtain ⟨hid, hempty⟩ := hJ.heap ref obj hlive.2
    have hout := hempty (.inl hfail)
    refine ⟨hout.trans hid.symm, hidle (hJ.quiet ref obj hlive (.inl hfail)), fun txId hmem => ?_⟩
    rw [hid]
    rcases hJ.shows ref obj hlive txId hmem with heq | hended
    · exact .inl (heq.trans hout)
    · exact hended

/-- In every run that meets the condition, an order that has failed has no live transaction. -/
theorem MgrSafe.noneLive [DecidableEq S] {mgr : OrderMgr E S} (h : K.MgrSafe env mgr)
    {ls : List (Label OrderEvt OrderChoice)} {c : OrderPool E S}
    (hout : K.outTx s.row = OrderEntity.entityId s.row) (hfresh : s.Fresh)
    (hall : (mgr.program env).system.Meets (fun c l => K.failsInTurn mgr env c l = true) ⟨s, []⟩ ls)
    (hrun : (mgr.program env).system.run ⟨s, []⟩ ls = some c) :
    (OrderEntity.state c.store.row = K.outgoingFail → K.NoneLive c c.store.row) ∧
      ∀ ref obj, c.store.Live ref obj → OrderEntity.state obj.entity = K.outgoingFail →
        K.NoneLive c obj.entity := by
  have hallows : (mgr.program env).system.Meets (Moves.Allows (K.KeepsFailed mgr env)) ⟨s, []⟩ ls :=
    hall.mono fun _ _ hl => allows_of_failsInTurn hl
  exact noneLive_of_holds (Moves.sound (outgoing_invariant h) h.starts
    (.idle (Outgoing.init hfresh hout)) hallows hrun)

end OrderKind

end CotServer
