import CotServer.Model.Recharge.Order
import CotServer.Model.Redemption.Order
import CotServer.Model.Sample
import CotServer.Verify.Order.Handlers

/-!
# The ticks of the waiting states

The tick of a state that waits repeats an action until it is done: it makes the wallet watch the
incoming transaction, or publishes the order for another outgoing one. The two kinds of order do
each of these in a state of their own. The first is marked as done after the call; the second
forgets its time before it, and a publication that fails is not tried again.
-/

namespace CotServer

open Async OrderObj

/-- An action that the tick of a state repeats until it is done. -/
structure TickAction (E S : Type) where
  mgr : OrderEnv → OrderMgr E S
  stateId : S
  /-- The action is due for an object at a time. -/
  due : Nat → OrderObj E → Bool
  /-- The call that the action makes. -/
  op : OrderObj E → OrderOp E S

/-- The time of the next retry has come. -/
def OrderObj.retryDue {E : Type} (now : Nat) (obj : OrderObj E) : Bool :=
  obj.retryTxStamp.any fun stamp => stamp ≠ 0 ∧ now ≥ stamp

namespace RechargeOrder

def externalTick : TickAction RechargeOrder RECHARGE_ORDER_STATE_ID where
  mgr := rechargeOrderMgr
  stateId := .EXTERNAL_WAIT_ON_CHAIN
  due _ obj := !obj.createFromTxObjSuccess
  op obj := .createExternalTransObj obj.entity.walletChain obj.entity.walletTxId

def internalTick : TickAction RechargeOrder RECHARGE_ORDER_STATE_ID where
  mgr := rechargeOrderMgr
  stateId := .INTERNAL_WAIT_ON_CHAIN
  due := retryDue
  op _ := .publishOrderEvent (.TRY_TRANSFER (some .RECHARGEV2_ACCOUNT))

end RechargeOrder

namespace RedemptionOrder

def internalTick : TickAction RedemptionOrder REDEMPTION_ORDER_STATE_ID where
  mgr := redemptionOrderMgr
  stateId := .INTERNAL_WAIT_ON_CHAIN
  due _ obj := !obj.createFromTxObjSuccess
  op obj := .createInternalTransObj obj.entity.internalChain obj.entity.redemptionTxId

def externalTick : TickAction RedemptionOrder REDEMPTION_ORDER_STATE_ID where
  mgr := redemptionOrderMgr
  stateId := .EXTERNAL_WAIT_ON_CHAIN
  due := retryDue
  op _ := .publishOrderEvent .TO_TX_START

end RedemptionOrder

namespace TickAction

variable {E S : Type} [OrderEntity E S]

/-- The live object of the order is in the state of the action. -/
structure Live (a : TickAction E S) (s : OrderStore E) (ref : Ref) (obj : OrderObj E) : Prop where
  live : s.Live ref obj
  curStateId : obj.curStateId = a.stateId

variable {a : TickAction E S} {env : OrderEnv} {choice : OrderChoice} {s s' : OrderStore E}
  {ref : Ref} {obj : OrderObj E}

theorem Live.later (hlive : a.Live s ref obj) (hmemory : s.SameMemory s') : a.Live s' ref obj :=
  ⟨⟨hmemory.processing.trans hlive.live.1, by rw [hmemory.heap, hlive.live.2]⟩, hlive.curStateId⟩

/-- An update of the object in a store with the same memory. -/
theorem Live.modify {f : OrderObj E → OrderObj E} (hlive : a.Live s ref obj)
    (hmemory : s.SameMemory s') (hf : (f obj).entity = obj.entity) :
    a.Live { s' with heap := s'.heap.modify ref f } ref (f obj) where
  live := ⟨hmemory.processing.trans hlive.live.1, by simp [hmemory.heap, hlive.live.2]⟩
  curStateId := (congrArg OrderEntity.state hf).trans hlive.curStateId

/-- The tick of the order worker. -/
def tick (a : TickAction E S) (env : OrderEnv) : OrderAsync E S Unit :=
  (a.mgr env).dispatch fun state ref => state.onTick ref

/-- The tick makes the call of the action. -/
def Performs (a : TickAction E S) (env : OrderEnv) (s : OrderStore E) (obj : OrderObj E) : Prop :=
  ∃ k, ((a.tick env).segment s).1 = .await (a.op obj) k

/-- The tick makes the call of the action exactly when that is due. -/
theorem Live.performs_iff (hlive : a.Live s ref obj) {p : OrderAsync E S Unit}
    (htick : (((a.mgr env).states a.stateId).onTick ref).segment s =
      (if a.due s.now obj then p else pure ()).segment s)
    (hcall : ∃ k, (p.segment s).1 = .await (a.op obj) k) :
    a.Performs env s obj ↔ a.due s.now obj = true := by
  rw [Performs, tick, segment_dispatch hlive.live, hlive.curStateId, htick]
  split
  · next hdue => exact ⟨fun _ => hdue, fun _ => hcall⟩
  · next hdue =>
    constructor
    · rintro ⟨k, hk⟩
      cases hk
    · intro h
      exact absurd h hdue

variable [DecidableEq S]

/-- After a tick that throws, every later tick performs the action; after one that does not, none
does. -/
def Repeatable (a : TickAction E S) (env : OrderEnv) (choice : OrderChoice) (s : OrderStore E)
    (ref : Ref) : Prop :=
  ∀ r s', (a.tick env).Runs (fun op s r s' => op.answer env choice s = some (r, s')) s r s' →
    ∃ obj, a.Live s' ref obj ∧ ∀ now, s.now ≤ now →
      match r with
      | .error _ => a.due now obj = true
      | .ok _ => a.due now obj = false

/-- The object is marked once its call has been answered. -/
theorem Live.repeatable_of_mark (hlive : a.Live s ref obj)
    (hfield : ∀ now obj, a.due now obj = !obj.createFromTxObjSuccess)
    (hdue : a.due s.now obj = true)
    (htick : ∀ {answer} {r : Except Err Unit} {s'},
      (((a.mgr env).states a.stateId).onTick ref).Runs answer s r s' →
      (call (a.op obj) >>= fun _ => modifyObj ref fun obj => { obj with createFromTxObjSuccess := true } :
        OrderAsync E S Unit).Runs answer s r s') :
    a.Repeatable env choice s ref := by
  intro r s' hrun
  have hhandler := (runs_dispatch hlive.live).1 hrun
  rw [hlive.curStateId] at hhandler
  rcases runs_bind.1 (htick hhandler) with ⟨e, rfl, hcall⟩ | ⟨_, t, hcall, hmark⟩
  · have hkept := OrderOp.answer_memory (runs_call.1 hcall)
    refine ⟨obj, hlive.later hkept, ?_⟩
    intro now _
    exact (hfield now obj).trans ((hfield s.now obj).symm.trans hdue)
  · have hkept := OrderOp.answer_memory (runs_call.1 hcall)
    obtain ⟨rfl, rfl⟩ := runs_update.1 hmark
    refine ⟨_, hlive.modify hkept ?_, ?_⟩
    · rfl
    · intro now _
      exact hfield now _

/-- The time is forgotten before the publication; then the publication must not throw. -/
theorem Live.repeatable_iff_of_forget (hlive : a.Live s ref obj) (message : OrderMessage)
    (hfield : a.due = retryDue)
    (htick : ∀ {answer} {r : Except Err Unit} {s'},
      (((a.mgr env).states a.stateId).onTick ref).Runs answer s r s' ↔
      (modifyObj ref (fun obj => { obj with retryTxStamp := none }) >>= fun _ =>
        publishOrderEvent message : OrderAsync E S Unit).Runs answer s r s') :
    a.Repeatable env choice s ref ↔ ∀ e, choice ≠ .fails e := by
  have hforget : ∀ now (obj : OrderObj E), a.due now { obj with retryTxStamp := none } = false := by
    intro now obj
    rw [hfield]
    rfl
  have hkept : s.SameMemory s := ⟨rfl, rfl, rfl, rfl, rfl, rfl, rfl, rfl⟩
  have hmodified := hlive.modify (f := fun obj => { obj with retryTxStamp := none }) hkept rfl
  have hrun : ∀ r s', (a.tick env).Runs
      (fun op s r s' => op.answer env choice s = some (r, s')) s r s' ↔
      (OrderOp.publishOrderEvent message : OrderOp E S).answer env choice
        { s with heap := s.heap.modify ref fun obj => { obj with retryTxStamp := none } } =
          some (r, s') := by
    intro r s'
    rw [tick, runs_dispatch hlive.live, hlive.curStateId, htick]
    exact runs_update_bind.trans runs_call
  constructor
  · rintro h e rfl
    obtain ⟨obj', hlive', hkeeps⟩ := h (.error e) _ ((hrun _ _).2 rfl)
    have hsame := Option.some.inj (hlive'.live.2.symm.trans hmodified.live.2)
    have hstill := hkeeps s.now (Nat.le_refl _)
    rw [hsame] at hstill
    exact absurd ((hforget s.now obj).symm.trans hstill) (by decide)
  · intro hok r s' hr
    have hanswer := (hrun r s').1 hr
    have hlater := hmodified.later (OrderOp.answer_memory hanswer)
    cases choice with
    | fails e => exact absurd rfl (hok e)
    | done =>
      cases hanswer
      exact ⟨_, hlater, fun now _ => hforget now obj⟩
    | amount n => cases hanswer
    | text s => cases hanswer
    | flag b => cases hanswer

end TickAction

variable {env : OrderEnv} {choice : OrderChoice} {ref : Ref}

namespace RechargeOrder

variable {s : OrderStore RechargeOrder} {obj : RechargeOrderObj}

theorem externalTick_performs (hlive : externalTick.Live s ref obj) :
    externalTick.Performs env s obj ↔ externalTick.due s.now obj = true :=
  hlive.performs_iff (segment_getObj_bind hlive.live.2)
    ⟨_, congrArg Prod.fst (segment_getObj_bind hlive.live.2)⟩

theorem internalTick_performs (hlive : internalTick.Live s ref obj) :
    internalTick.Performs env s obj ↔ internalTick.due s.now obj = true :=
  hlive.performs_iff (segment_getObj_bind hlive.live.2) ⟨_, rfl⟩

theorem externalTick_repeatable (hlive : externalTick.Live s ref obj)
    (hdue : externalTick.due s.now obj = true) : externalTick.Repeatable env choice s ref := by
  refine hlive.repeatable_of_mark ?_ hdue ?_
  · exact fun _ _ => rfl
  · intro answer r s' hrun
    have htick := (runs_getObj_bind hlive.live.2).1 hrun
    change (!obj.createFromTxObjSuccess) = true at hdue
    rw [hdue, if_pos rfl] at htick
    exact (runs_getObj_bind hlive.live.2).1 htick

theorem internalTick_repeatable_iff (hlive : internalTick.Live s ref obj)
    (hdue : internalTick.due s.now obj = true) :
    internalTick.Repeatable env choice s ref ↔ ∀ e, choice ≠ .fails e := by
  refine hlive.repeatable_iff_of_forget (.TRY_TRANSFER (some .RECHARGEV2_ACCOUNT)) rfl ?_
  intro answer r s'
  refine (runs_getObj_bind hlive.live.2).trans (runs_store_bind.trans ?_)
  change obj.retryTxStamp.any _ = true at hdue
  rw [if_pos hdue]

end RechargeOrder

namespace RedemptionOrder

variable {s : OrderStore RedemptionOrder} {obj : RedemptionOrderObj}

theorem internalTick_performs (hlive : internalTick.Live s ref obj) :
    internalTick.Performs env s obj ↔ internalTick.due s.now obj = true :=
  hlive.performs_iff (segment_getObj_bind hlive.live.2) ⟨_, rfl⟩

theorem externalTick_performs (hlive : externalTick.Live s ref obj) :
    externalTick.Performs env s obj ↔ externalTick.due s.now obj = true :=
  hlive.performs_iff (segment_getObj_bind hlive.live.2) ⟨_, rfl⟩

theorem internalTick_repeatable (hlive : internalTick.Live s ref obj)
    (hdue : internalTick.due s.now obj = true) : internalTick.Repeatable env choice s ref := by
  refine hlive.repeatable_of_mark ?_ hdue ?_
  · exact fun _ _ => rfl
  · intro answer r s' hrun
    have htick := (runs_getObj_bind hlive.live.2).1 hrun
    change (!obj.createFromTxObjSuccess) = true at hdue
    rwa [hdue, if_pos rfl] at htick

theorem externalTick_repeatable_iff (hlive : externalTick.Live s ref obj)
    (hdue : externalTick.due s.now obj = true) :
    externalTick.Repeatable env choice s ref ↔ ∀ e, choice ≠ .fails e := by
  refine hlive.repeatable_iff_of_forget .TO_TX_START rfl ?_
  intro answer r s'
  refine (runs_getObj_bind hlive.live.2).trans (runs_store_bind.trans ?_)
  change obj.retryTxStamp.any _ = true at hdue
  rw [if_pos hdue]

end RedemptionOrder

/-- The tick makes its call exactly when that is due. A tick that watches the incoming transaction is
repeated until its call has been answered; one that publishes for the outgoing transaction is
repeated when its publication does not throw. -/
theorem tick_repeatable_iff (env : OrderEnv) (choice : OrderChoice) (ref : Ref) :
    (∀ s obj, RechargeOrder.externalTick.Live s ref obj →
        (RechargeOrder.externalTick.Performs env s obj ↔
          RechargeOrder.externalTick.due s.now obj = true) ∧
        (RechargeOrder.externalTick.due s.now obj = true →
          RechargeOrder.externalTick.Repeatable env choice s ref)) ∧
      (∀ s obj, RedemptionOrder.internalTick.Live s ref obj →
        (RedemptionOrder.internalTick.Performs env s obj ↔
          RedemptionOrder.internalTick.due s.now obj = true) ∧
        (RedemptionOrder.internalTick.due s.now obj = true →
          RedemptionOrder.internalTick.Repeatable env choice s ref)) ∧
      (∀ s obj, RechargeOrder.internalTick.Live s ref obj →
        (RechargeOrder.internalTick.Performs env s obj ↔
          RechargeOrder.internalTick.due s.now obj = true) ∧
        (RechargeOrder.internalTick.due s.now obj = true →
          (RechargeOrder.internalTick.Repeatable env choice s ref ↔ ∀ e, choice ≠ .fails e))) ∧
      ∀ s obj, RedemptionOrder.externalTick.Live s ref obj →
        (RedemptionOrder.externalTick.Performs env s obj ↔
          RedemptionOrder.externalTick.due s.now obj = true) ∧
        (RedemptionOrder.externalTick.due s.now obj = true →
          (RedemptionOrder.externalTick.Repeatable env choice s ref ↔ ∀ e, choice ≠ .fails e)) := by
  refine ⟨?_, ?_, ?_, ?_⟩
  · intro s obj hlive
    exact ⟨RechargeOrder.externalTick_performs hlive, RechargeOrder.externalTick_repeatable hlive⟩
  · intro s obj hlive
    exact ⟨RedemptionOrder.internalTick_performs hlive,
      RedemptionOrder.internalTick_repeatable hlive⟩
  · intro s obj hlive
    exact ⟨RechargeOrder.internalTick_performs hlive,
      RechargeOrder.internalTick_repeatable_iff hlive⟩
  · intro s obj hlive
    exact ⟨RedemptionOrder.externalTick_performs hlive,
      RedemptionOrder.externalTick_repeatable_iff hlive⟩

/-- One live object, at time `1000`. -/
def tickStore (state : RECHARGE_ORDER_STATE_ID) (retryTxStamp : Option Nat) :
    OrderStore RechargeOrder where
  row := Sample.rechargeOrder .ISSUE
  heap := [{ entity := { Sample.rechargeOrder .ISSUE with state }, retryTxStamp }]
  processing := some 0
  now := 1000

theorem tick_repeatable_sample :
    RechargeOrder.externalTick.Repeatable Sample.orderEnv (.fails (.error (js "timeout")))
        (tickStore .EXTERNAL_WAIT_ON_CHAIN none) 0 ∧
      RechargeOrder.internalTick.Repeatable Sample.orderEnv .done
        (tickStore .INTERNAL_WAIT_ON_CHAIN (some 1000)) 0 := by
  refine ⟨((tick_repeatable_iff _ _ 0).1 _ _ ⟨⟨rfl, rfl⟩, rfl⟩).2 rfl, ?_⟩
  refine (((tick_repeatable_iff _ _ 0).2.2.1 _ _ ⟨⟨rfl, rfl⟩, rfl⟩).2 (by decide)).2 ?_
  intro e he
  cases he

/-- A publication that throws at the time of a retry leaves nothing to be done. -/
theorem not_tick_repeatable :
    ¬ ∀ (env : OrderEnv) (choice : OrderChoice) (ref : Ref) (s : OrderStore RechargeOrder)
      (obj : RechargeOrderObj), RechargeOrder.internalTick.Live s ref obj →
        RechargeOrder.internalTick.due s.now obj = true →
          RechargeOrder.internalTick.Repeatable env choice s ref := by
  intro h
  have hlive : RechargeOrder.internalTick.Live (tickStore .INTERNAL_WAIT_ON_CHAIN (some 1000)) 0 _ :=
    ⟨⟨rfl, rfl⟩, rfl⟩
  have hdue : RechargeOrder.internalTick.due (tickStore .INTERNAL_WAIT_ON_CHAIN (some 1000)).now
      { entity := { Sample.rechargeOrder .ISSUE with state := .INTERNAL_WAIT_ON_CHAIN }
        retryTxStamp := some 1000 } = true := by decide
  have hrepeat := h Sample.orderEnv (.fails (.error (js "timeout"))) 0 _ _ hlive hdue
  exact (RechargeOrder.internalTick_repeatable_iff hlive hdue).1 hrepeat _ rfl

end CotServer
