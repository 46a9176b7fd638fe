import CotServer.Theory.Post
import CotServer.Verify.Order.BudgetRuns

/-!
# Orders that go on

A live object that needs its outgoing transaction has something that makes it go on: a message, its
place in the queue of those that wait to publish one, the time of its next retry, or a transaction
that will be reported. Each function takes one of these away and has to leave another. `Awake` is
this invariant, for functions that run one after another while saving and publishing do not throw,
and `Woken` is what a kind of order has to satisfy for it.
-/

namespace CotServer

open Async OrderObj

/-- A kind of order, with the objects that still need an outgoing transaction. -/
structure LegKind (E S : Type) [OrderEntity E S] extends RetryKind E S where
  needs : E → Bool
  /-- The messages whose consumers start the transaction, or publish another such message. -/
  wakes : OrderMessage → Bool
  /-- An object that enters the state waits for the queues before it publishes. -/
  queues : Bool

section

variable {E S : Type}

/-- The calls that do not throw: the database and the queues work. -/
def OrderOp.sure : OrderOp E S → Bool
  | save _ | saveState _ | publishOrderEvent _ | isDevTest => true
  | _ => false

/-- The memory of the order worker stays as it is, and no message is lost. -/
structure OrderStore.Quiet (s t : OrderStore E) : Prop where
  memory : s.SameMemory t
  messages : s.messages ⊆ t.messages

/-- How calls are answered while saving and publishing do not throw. -/
structure Sure [OrderEntity E S] (env : OrderEnv) (answer : (op : OrderOp E S) → OrderStore E →
    Except Err op.Ans → OrderStore E → Prop) : Prop where
  quiet : ∀ op s r t, answer op s r t → s.Quiet t
  save : ∀ e s r t, answer (.save e) s r t → r = .ok () ∧ t = { s with row := e }
  saveState : ∀ st s r t, answer (.saveState st) s r t →
    r = .ok () ∧ t = { s with row := OrderEntity.setState st s.row }
  publish : ∀ message s r t, answer (.publishOrderEvent message) s r t →
    r = .ok () ∧ t = { s with messages := s.messages ++ [message] }
  isDevTest : ∀ s r t, answer .isDevTest s r t → r = .ok env.devTest ∧ t = s

/-- A transaction is no longer waited for when a report on it has been handled. -/
def OrderStore.reported (outgoing : ChainSide) (e : OrderEvt) (r : Except Err Unit)
    (s : OrderStore E) : OrderStore E :=
  match e, r with
  | .onChain report, .ok _ =>
    if report.side = outgoing then { s with started := s.started.filter (· ≠ report.txId) } else s
  | _, _ => s

end

/-- An event, the answers to the calls of its function, and the messages that get lost before it. -/
structure WorkerStep where
  event : OrderEvt
  answers : List OrderChoice
  lost : List OrderMessage := []

/-- Messages get lost only with the connection to the queues. -/
def WorkerStep.enabled (l : WorkerStep) : Bool :=
  match l.event with
  | .drop _ => false
  | .mqReConnect => true
  | _ => l.lost.isEmpty

variable {E S : Type} [OrderEntity E S]

namespace LegKind

variable (K : LegKind E S)

/-- The object waits for its outgoing transaction. -/
def Needs (obj : OrderObj E) : Prop :=
  obj.curStateId = K.outgoingWait ∧ K.needs obj.entity = true

/-- What makes an order go on that needs its outgoing transaction. -/
inductive Continues (since : Nat) (s : OrderStore E) (ref : Ref) (obj : OrderObj E) : Prop where
  | message {message : OrderMessage} (h : message ∈ s.messages) (hwakes : K.wakes message = true)
  | queue (hqueues : K.queues = true) (h : ref ∈ s.waiting)
  | retry {stamp : Nat} (h : obj.retryTxStamp = some stamp) (hsince : since ≤ stamp)
  | started (h : K.outTx obj.entity ∈ s.started)

/-- The live object goes on; `since` is a time in the past. -/
structure Awake (since : Nat) (s : OrderStore E) : Prop where
  now : since ≤ s.now
  live : ∀ ref obj, s.Live ref obj → K.Needs obj → K.Continues since s ref obj

/-- The live object needs nothing. -/
def Idle (ref : Ref) (s : OrderStore E) : Prop :=
  s.processing = none ∨ ∃ obj, s.Live ref obj ∧ ¬ K.Needs obj

/-- An order that needs nothing goes on needing nothing. -/
structure Rests (ref : Ref) (s t : OrderStore E) : Prop where
  now : t.now = s.now
  idle : K.Idle ref s → K.Idle ref t

/-- The functions of the order worker one after another. The transactions on record as started are
those that have not been reported since. -/
def queueWorker [DecidableEq S] (env : OrderEnv) : System (OrderStore E) WorkerStep where
  step s l :=
    if l.enabled then
      (((K.mgr env).sureProgram env OrderOp.sure).handle
        { s with messages := s.messages.diff l.lost } l.event l.answers).map
          fun x => x.2.reported K.outgoing l.event x.1
    else none

variable {K} {env : OrderEnv} {since : Nat} {s t u : OrderStore E} {ref : Ref} {obj : OrderObj E}
  {message : OrderMessage}
variable {answer : (op : OrderOp E S) → OrderStore E → Except Err op.Ans → OrderStore E → Prop}

/-! ## Reasons to go on -/

theorem Awake.of_message (message : OrderMessage) (hnow : since ≤ s.now)
    (h : message ∈ s.messages)
    (hwakes : K.wakes message = true) : K.Awake since s where
  now := hnow
  live _ _ _ _ := .message h hwakes

/-- There is one live object. -/
theorem Awake.of_live (hnow : since ≤ s.now) (hlive : s.Live ref obj)
    (h : K.Needs obj → K.Continues since s ref obj) : K.Awake since s where
  now := hnow
  live ref' obj' hlive' hneeds := by
    obtain ⟨hprocessing, hobj⟩ := hlive
    obtain ⟨hprocessing', hobj'⟩ := hlive'
    rw [hprocessing] at hprocessing'
    cases hprocessing'
    rw [hobj] at hobj'
    cases hobj'
    exact h hneeds

theorem Awake.of_none (hnow : since ≤ s.now) (h : ∀ ref obj, ¬ s.Live ref obj) :
    K.Awake since s where
  now := hnow
  live ref obj hlive := absurd hlive (h ref obj)

theorem Idle.awake (h : K.Idle ref s) (hnow : since ≤ s.now) : K.Awake since s := by
  rcases h with hnone | ⟨obj, hlive, hneeds⟩
  · apply Awake.of_none hnow
    intro ref obj hlive
    rw [hlive.1] at hnone
    cases hnone
  · exact .of_live hnow hlive fun h => absurd h hneeds

/-- What makes an order go on lasts. -/
theorem Awake.later (h : K.Awake since s) (hlive : ∀ ref obj, t.Live ref obj → s.Live ref obj)
    (hnow : s.now ≤ t.now) (hmessages : s.messages ⊆ t.messages) (hwaiting : s.waiting ⊆ t.waiting)
    (hstarted : s.started ⊆ t.started) : K.Awake since t where
  now := Nat.le_trans h.now hnow
  live ref obj hlive' hneeds := by
    cases h.live ref obj (hlive ref obj hlive') hneeds with
    | message h hwakes => exact .message (hmessages h) hwakes
    | queue hqueues h => exact .queue hqueues (hwaiting h)
    | retry h hsince => exact .retry h hsince
    | started h => exact .started (hstarted h)

theorem Awake.quiet (h : K.Awake since s) (hst : s.Quiet t) : K.Awake since t := by
  refine h.later ?_ (Nat.le_of_eq hst.memory.now.symm) hst.messages ?_ ?_
  · rintro ref obj ⟨hprocessing, hobj⟩
    exact ⟨hst.memory.processing ▸ hprocessing, hst.memory.heap ▸ hobj⟩
  · simp [hst.memory.waiting]
  · simp [hst.memory.started]

omit [OrderEntity E S] in
theorem live_quiet (h : s.Live ref obj) (hst : s.Quiet t) : t.Live ref obj :=
  ⟨hst.memory.processing.trans h.1, by rw [hst.memory.heap, h.2]⟩

omit [OrderEntity E S] in
theorem live_modify {f : OrderObj E → OrderObj E} (h : s.Live ref obj) :
    (s.modify ref f).Live ref (f obj) := ⟨h.1, by simp [OrderStore.modify, h.2]⟩

theorem Idle.quiet (h : K.Idle ref s) (hst : s.Quiet t) : K.Idle ref t := by
  rcases h with hnone | ⟨obj, hlive, hneeds⟩
  · exact .inl (hst.memory.processing.trans hnone)
  · exact .inr ⟨obj, live_quiet hlive hst, hneeds⟩

/-- A message is taken that makes no order go on. -/
theorem Awake.erase (h : K.Awake since s) (hwakes : K.wakes message = false) :
    K.Awake since { s with messages := s.messages.erase message } where
  now := h.now
  live ref obj hlive hneeds := by
    cases h.live ref obj hlive hneeds with
    | @message other h hother =>
      refine .message ((List.mem_erase_of_ne ?_).2 h) hother
      rintro rfl
      exact Bool.false_ne_true (hwakes.symm.trans hother)
    | queue hqueues h => exact .queue hqueues h
    | retry h hsince => exact .retry h hsince
    | started h => exact .started h

omit [OrderEntity E S] in
@[simp] theorem reported_now {side : ChainSide} {e : OrderEvt} {r : Except Err Unit} :
    (s.reported side e r).now = s.now := by
  unfold OrderStore.reported
  split
  · split <;> rfl
  · rfl

omit [OrderEntity E S] in
theorem reported_heap {side : ChainSide} {e : OrderEvt} {r : Except Err Unit} :
    (s.reported side e r).heap = s.heap := by
  unfold OrderStore.reported
  split
  · split <;> rfl
  · rfl

omit [OrderEntity E S] in
theorem reported_accepted {side : ChainSide} {e : OrderEvt} {r : Except Err Unit} :
    (s.reported side e r).accepted = s.accepted := by
  unfold OrderStore.reported
  split
  · split <;> rfl
  · rfl

omit [OrderEntity E S] in
theorem live_reported {side : ChainSide} {e : OrderEvt} {r : Except Err Unit} :
    (s.reported side e r).Live ref obj ↔ s.Live ref obj := by
  unfold OrderStore.reported
  split
  · split <;> exact Iff.rfl
  · exact Iff.rfl

theorem Idle.reported (h : K.Idle ref s) {side : ChainSide} {e : OrderEvt} {r : Except Err Unit} :
    K.Idle ref (s.reported side e r) := by
  unfold OrderStore.reported
  split
  · split <;> exact h
  · exact h

/-! ## Answers -/

section Answers

omit [OrderEntity E S] in
theorem post_getObj {α : Type} {k : OrderObj E → OrderAsync E S α}
    {Q : Except Err α → OrderStore E → Prop} (hobj : s.heap[ref]? = some obj)
    (h : Post answer (k obj) s Q) : Post answer (getObj ref >>= k) s Q :=
  fun r t hrun => h r t ((runs_getObj_bind hobj).1 hrun)

omit [OrderEntity E S] in
theorem post_getObj_none {α : Type} {k : OrderObj E → OrderAsync E S α}
    {Q : Except Err α → OrderStore E → Prop} (hobj : s.heap[ref]? = none) (h : ∀ e, Q (.error e) s) :
    Post answer (getObj ref >>= k) s Q := by
  refine post_bind.2 (post_bind.2 (post_store.2 ?_))
  dsimp only
  rw [hobj]
  exact post_throw.2 (h _)

omit [OrderEntity E S] in
theorem post_store_bind {α : Type} {k : OrderStore E → OrderAsync E S α}
    {Q : Except Err α → OrderStore E → Prop} (h : Post answer (k s) s Q) :
    Post answer (store >>= k) s Q := post_bind.2 (post_store.2 h)

omit [OrderEntity E S] in
theorem post_update_bind {α : Type} {f : OrderStore E → OrderStore E}
    {k : Unit → OrderAsync E S α} {Q : Except Err α → OrderStore E → Prop}
    (h : Post answer (k ()) (f s) Q) : Post answer (Async.update f >>= k) s Q :=
  post_bind.2 (post_update.2 h)

variable (hsure : Sure env answer)

include hsure

theorem post_quiet {op : OrderOp E S} {Q : Except Err op.Ans → OrderStore E → Prop}
    (h : ∀ r t, s.Quiet t → Q r t) : Post answer (call op) s Q :=
  post_call.2 fun r t hans => h r t (hsure.quiet op s r t hans)

theorem post_publish {Q : Except Err Unit → OrderStore E → Prop}
    (h : Q (.ok ()) { s with messages := s.messages ++ [message] }) :
    Post answer (publishOrderEvent message) s Q := by
  refine post_call.2 fun r t hans => ?_
  obtain ⟨rfl, rfl⟩ := hsure.publish message s r t hans
  exact h

/-- A message is published that makes the order go on. -/
theorem post_wake (hnow : since ≤ s.now) (hwakes : K.wakes message = true) :
    Post answer (publishOrderEvent message) s fun _ t => K.Awake since t := by
  refine post_publish hsure (.of_message message hnow ?_ hwakes)
  exact List.mem_append_right _ (List.mem_singleton_self _)

theorem post_saveState {α : Type} {k : Unit → OrderAsync E S α}
    {Q : Except Err α → OrderStore E → Prop} (hobj : s.heap[ref]? = some obj)
    (h : Post answer (k ()) { s with row := OrderEntity.setState obj.curStateId s.row } Q) :
    Post answer (saveState ref >>= k) s Q := by
  refine post_bind.2 (post_getObj hobj (post_call.2 fun r t hans => ?_))
  obtain ⟨rfl, rfl⟩ := hsure.saveState obj.curStateId s r t hans
  exact h

theorem post_isDevTest {α : Type} {k : Bool → OrderAsync E S α}
    {Q : Except Err α → OrderStore E → Prop} (h : Post answer (k env.devTest) s Q) :
    Post answer (call (OrderOp.isDevTest : OrderOp E S) >>= k) s Q := by
  refine post_bind.2 (post_call.2 fun r t hans => ?_)
  obtain ⟨rfl, rfl⟩ := hsure.isDevTest s r t hans
  exact h

end Answers

/-! ## Functions of an order that needs nothing -/

section Quiet

omit [OrderEntity E S] in
theorem quiet_openChange : s.Quiet (s.openChange ref) :=
  ⟨⟨rfl, rfl, rfl, rfl, rfl, rfl, rfl, rfl⟩, List.Subset.refl _⟩

omit [OrderEntity E S] in
theorem quiet_closeChange : s.Quiet (s.closeChange ref) :=
  ⟨⟨rfl, rfl, rfl, rfl, rfl, rfl, rfl, rfl⟩, List.Subset.refl _⟩

/-- The hooks of an open state change. -/
theorem awake_change {state : OrderState E S}
    (h : Post answer (state.enter ref) (s.openChange ref) fun _ t => K.Awake since t) :
    Post answer (state.change ref) s fun _ t => K.Awake since t := by
  intro r t hrun
  obtain ⟨u, hhooks, rfl⟩ := runs_change.1 hrun
  exact (h r u hhooks).quiet quiet_closeChange

/-- The live object enters a state that leaves the order awake. -/
theorem awake_changeState {state : OrderState E S} {st : S} (hnow : since ≤ s.now)
    (hlive : s.Live ref obj) (henter : ∀ t obj, since ≤ t.now → t.Live ref obj →
      Post answer (state.enter ref) t fun _ u => K.Awake since u) :
    Post answer (changeState state ref st) s fun _ t => K.Awake since t := by
  refine post_update_bind (awake_change (henter _ (OrderObj.setState st obj) hnow ?_))
  exact live_quiet (live_modify hlive) quiet_openChange

variable (hsure : Sure env answer)

include hsure

end Quiet

section Rests

theorem Rests.refl (s : OrderStore E) : K.Rests ref s s := ⟨rfl, id⟩

theorem Rests.trans (s t u : OrderStore E) (h : K.Rests ref s t) (h' : K.Rests ref t u) :
    K.Rests ref s u := ⟨h'.now.trans h.now, h'.idle ∘ h.idle⟩

theorem Rests.of_quiet (h : s.Quiet t) : K.Rests ref s t := ⟨h.memory.now, fun hidle => hidle.quiet h⟩

theorem rests_bind {α β : Type} {p : OrderAsync E S α} {f : α → OrderAsync E S β}
    (hp : p.Keeps answer (K.Rests ref)) (hf : ∀ a, (f a).Keeps answer (K.Rests ref)) :
    (p >>= f).Keeps answer (K.Rests ref) := Keeps.bind Rests.trans hp hf

theorem rests_pure {α : Type} (a : α) : (pure a : OrderAsync E S α).Keeps answer (K.Rests ref) :=
  Keeps.pure .refl a

theorem rests_getObj : (getObj ref : OrderAsync E S _).Keeps answer (K.Rests ref) := by
  apply rests_bind (Keeps.store .refl)
  intro s
  split
  · exact rests_pure _
  · exact Keeps.throw .refl _

/-- The object changes, but does not come to need anything. -/
theorem rests_modifyObj {f : OrderObj E → OrderObj E} (hf : ∀ obj, K.Needs (f obj) → K.Needs obj) :
    (modifyObj ref f : OrderAsync E S Unit).Keeps answer (K.Rests ref) := by
  apply Keeps.update
  intro s
  refine ⟨rfl, ?_⟩
  rintro (hnone | ⟨obj, hlive, hneeds⟩)
  · exact .inl hnone
  · exact .inr ⟨f obj, live_modify hlive, fun h => hneeds (hf obj h)⟩

theorem rests_change {state : OrderState E S}
    (henter : (state.enter ref).Keeps answer (K.Rests ref)) :
    (state.change ref).Keeps answer (K.Rests ref) := by
  intro s r s' hrun
  obtain ⟨t, hhooks, rfl⟩ := runs_change.1 hrun
  exact ((Rests.of_quiet quiet_openChange).trans _ _ _ (henter _ r t hhooks)).trans _ _ _
    (.of_quiet quiet_closeChange)

variable (hsure : Sure env answer)

include hsure

theorem rests_call (op : OrderOp E S) : (call op).Keeps answer (K.Rests ref) :=
  Keeps.call fun s r t h => .of_quiet (hsure.quiet op s r t h)

theorem rests_save : (save ref : OrderAsync E S Unit).Keeps answer (K.Rests ref) :=
  rests_bind rests_getObj fun _ => rests_call hsure _

theorem rests_close : (close ref : OrderAsync E S Unit).Keeps answer (K.Rests ref) := by
  refine rests_bind (rests_save hsure) fun _ => Keeps.update fun s => ?_
  split
  · exact ⟨rfl, fun _ => .inl rfl⟩
  · exact .refl s

end Rests

/-- A function that rests leaves the order awake. -/
theorem post_of_rests {α : Type} {p : OrderAsync E S α} (hp : p.Keeps answer (K.Rests ref))
    (hnow : since ≤ s.now) (hidle : K.Idle ref s) :
    Post answer p s fun _ t => K.Idle ref t ∧ since ≤ t.now := by
  intro r t hrun
  have hrests := hp s r t hrun
  refine ⟨hrests.idle hidle, ?_⟩
  rw [hrests.now]
  exact hnow

/-- An object in another state needs nothing. -/
theorem idle_of_state (hlive : s.Live ref obj) (hstate : obj.curStateId ≠ K.outgoingWait) :
    K.Idle ref s := .inr ⟨obj, hlive, fun hneeds => hstate hneeds.1⟩

/-! ## The states of a kind -/

variable (K) in
/-- After the consumer of a message: where it has not thrown, the order goes on without it. -/
def Consumed (message : OrderMessage) (since : Nat) (r : Except Err Unit) (s : OrderStore E) : Prop :=
  since ≤ s.now ∧ (r = .ok () ∨ K.wakes message = false → K.Awake since s)

variable (K env) in
/-- The hooks and handlers of a state leave the order awake. -/
structure HandlersWake (answer : (op : OrderOp E S) → OrderStore E → Except Err op.Ans →
    OrderStore E → Prop) (st : S) (state : OrderState E S) : Prop where
  enter : ∀ since s ref obj, since ≤ s.now → s.Live ref obj → obj.curStateId = st →
    Post answer (state.enter ref) s fun _ t => K.Awake since t
  onTick : ∀ since s ref obj, K.Awake since s → s.Live ref obj → obj.curStateId = st →
    Post answer (state.onTick ref) s fun _ t => K.Awake since t
  onToTxStartCallback : ∀ since s ref obj, since ≤ s.now → s.Live ref obj → obj.curStateId = st →
    ¬ (st = K.outgoingWait ∧ K.Exhausted env obj) →
    (K.wakes .TO_TX_START = false → K.Awake since s) →
      Post answer (state.onToTxStartCallback ref) s (K.Consumed .TO_TX_START since)
  onInternalChainTryTransferCallback : ∀ since s ref obj accountType, since ≤ s.now →
    s.Live ref obj → obj.curStateId = st → ¬ (st = K.outgoingWait ∧ K.Exhausted env obj) →
    (K.wakes (.TRY_TRANSFER (some accountType)) = false → K.Awake since s) →
      Post answer (state.onInternalChainTryTransferCallback ref accountType) s
        (K.Consumed (.TRY_TRANSFER (some accountType)) since)
  onChainCallback : ∀ since s ref obj report, K.Awake since s → s.Live ref obj →
    obj.curStateId = st →
      Post answer (state.onChainCallback report.side report.success ref report.txId) s
        fun r t => K.Awake since (t.reported K.outgoing (.onChain report) r)

/-- The object enters a state in which it needs nothing. -/
theorem post_changeState {state : OrderState E S} {st : S} (hlive : s.Live ref obj)
    (hnow : since ≤ s.now) (hst : st ≠ K.outgoingWait)
    (henter : (state.enter ref).Keeps answer (K.Rests ref)) :
    Post answer (changeState state ref st) s fun _ t => K.Idle ref t ∧ since ≤ t.now := by
  refine post_update_bind (post_of_rests (rests_change henter) hnow ?_)
  refine idle_of_state (live_modify hlive) ?_
  rw [curStateId, OrderEntity.state_setState]
  exact hst

theorem rests_final (hsure : Sure env answer) {onEnterState : Ref → OrderAsync E S Unit}
    (henter : (onEnterState ref).Keeps answer (K.Rests ref)) :
    (OrderState.enter { onEnterState, afterEnterState := close } ref).Keeps answer
      (K.Rests ref) := by
  apply rests_bind (rests_pure ())
  intro _
  exact rests_bind henter fun _ => rests_close hsure

end LegKind

end CotServer
