import CotServer.Model.Sample
import CotServer.Verify.Order.Confirmed
import CotServer.Verify.Recharge.Moves
import CotServer.Verify.Redemption.Moves

/-!
# A confirmed order does not fail by an old failure

A retry of the incoming transfer keeps its transaction, so a failure from before the retry passes
`verifyTxId` after it. When it comes before the success, the order fails again and the success is
dropped. When the success comes first, no failure does any harm: only an object that is made from a
row without the confirmation listens to it.
-/

namespace CotServer

open Async Moves OrderKind

section

variable {E S : Type} [OrderEntity E S] {s : OrderStore E} {ref : Ref} {obj : OrderObj E}

omit [OrderEntity E S] in
/-- A report on the transaction of the object goes on. -/
theorem segment_verifyTxId_bind (tx : OrderObj E → JsString) (e : OrderObj E → Err)
    {k : Unit → OrderAsync E S Unit} (hobj : s.heap[ref]? = some obj) :
    (((do
      let obj' ← OrderObj.getObj ref
      throwIf (tx obj ≠ tx obj') (e obj')) >>= k : OrderAsync E S Unit)).segment s =
      (k ()).segment s := by
  simp only [OrderObj.getObj, bind_def, Async.bind, store, Async.segment, hobj]
  simp [pure, Async.bind, throwIf]

/-- An object whose state is saved when it is entered waits for that first. -/
theorem segment_enter (state : OrderState E S) {st : S}
    (hbefore : state.beforeEnterState = OrderObj.saveState) (hobj : s.heap[ref]? = some obj)
    (hst : OrderEntity.state obj.entity = st) :
    ∃ k, (state.enter ref).segment s = (.await (.saveState st) k, s) := by
  rw [OrderState.enter, hbefore]
  simp only [OrderObj.saveState, OrderObj.getObj, bind_def, Async.bind, store, Async.segment, hobj]
  simp only [pure, Async.bind, call, Async.segment, OrderObj.curStateId]
  cases hst
  exact ⟨_, rfl⟩

/-- The object gets a state that is saved when it is entered, and the change stays open. -/
theorem segment_changeState (state : OrderState E S) (st : S)
    (hbefore : state.beforeEnterState = OrderObj.saveState) (hobj : s.heap[ref]? = some obj) :
    ∃ k, (changeState state ref st).segment s =
      (.await (.saveState st) k, (s.modify ref (OrderObj.setState st)).openChange ref) := by
  have hmodify : ((s.modify ref (OrderObj.setState st)).openChange ref).heap[ref]? =
      some (obj.setState st) := by
    simp [OrderStore.openChange, OrderStore.modify, hobj]
  obtain ⟨k, henter⟩ := segment_enter state hbefore hmodify
    (OrderEntity.state_setState st obj.entity)
  have hrethrow := segment_tryCatch_await henter (h := fun e => do
    Async.update (OrderStore.closeChange ref)
    throw e)
  have hhooks := segment_bind_await hrethrow (f := fun _ =>
    Async.update (OrderStore.closeChange ref))
  exact ⟨_, hhooks⟩

variable {K : OrderKind E S} {env : OrderEnv} {mgr : OrderMgr E S}

variable [DecidableEq S] in
/-- From the confirmation on the order does not fail by its incoming transfer. -/
theorem OrderKind.MgrSafe.confirmed (hmgr : K.MgrSafe env mgr) (hconfirms : K.Confirms mgr)
    {s : OrderStore E} {ls ls' : List (Label OrderEvt OrderChoice)} {c c₁ c₂ : OrderPool E S}
    {i : Nat} {txId : JsString} (hrun : (mgr.program env).system.run ⟨s, []⟩ ls = some c)
    (htask : c.tasks[i]? = some (reported mgr ⟨K.incoming, true, txId⟩))
    (htakes : K.takes txId c.store = true) (hsettled : K.settled c = true)
    (hstep : (mgr.program env).step c (.resume i) = some c₁)
    (hall : (mgr.program env).system.Meets
      (Program.Allows fun s a => K.keepsConfirmed mgr s a = true) c₁ ls')
    (hrun' : (mgr.program env).system.run c₁ ls' = some c₂) :
    OrderEntity.state c₂.store.row ≠ K.incomingFail ∧
      ∀ ref obj, c₂.store.Live ref obj → OrderEntity.state obj.entity ≠ K.incomingFail := by
  have htrue : (mgr.program env).system.Meets (Moves.Allows fun _ _ _ => True) ⟨s, []⟩ ls :=
    (System.meets_true _ _).mono fun _ _ _ _ _ => trivial
  have hstart : K.Legs s 0 := fun _ hspot => absurd hspot (Multiset.notMem_zero _)
  have hlegs := Moves.sound legs_invariant hmgr.starts (.idle hstart) htrue hrun
  have hconfirmed := confirmed_of_step hmgr hconfirms hlegs htask htakes hsettled hstep
  obtain ⟨_, -, hend⟩ := Moves.sound (confirmed_invariant hmgr) hmgr.starts hconfirmed hall hrun'
  exact ⟨hend.row, fun ref obj hlive => (hend.live ref obj hlive).2⟩

end

section

variable {E S : Type} [OrderEntity E S] [DecidableEq S] {mgr : OrderMgr E S} {env : OrderEnv}

/-- The two steps after which a report is about to be handed out. -/
def reportSteps (report : Report) : List (Label OrderEvt OrderChoice) :=
  [.event (.onChain report), .answer 0 .done]

variable (mgr env) in
/-- Replays a run in which nothing else goes on when a report is handed out. -/
theorem exists_reported (s : OrderStore E) (ls ls' : List (Label OrderEvt OrderChoice))
    (report : Report) (test : OrderPool E S → OrderPool E S → OrderPool E S → Bool)
    (h : (((mgr.program env).system.run ⟨s, []⟩ ls).any fun c₀ => c₀.tasks.isEmpty &&
      ((mgr.program env).system.run c₀ (reportSteps report)).any fun c =>
        ((mgr.program env).step c (.resume 0)).any fun c₁ =>
          ((mgr.program env).system.run c₁ ls').any fun c₂ => test c c₁ c₂) = true) :
    ∃ c c₁ c₂, (mgr.program env).system.run ⟨s, []⟩ (ls ++ reportSteps report) = some c ∧
      c.tasks = [reported mgr report] ∧ (mgr.program env).step c (.resume 0) = some c₁ ∧
      (mgr.program env).system.run c₁ ls' = some c₂ ∧ test c c₁ c₂ = true ∧
      (mgr.program env).system.run ⟨s, []⟩ (ls ++ reportSteps report ++ .resume 0 :: ls') =
        some c₂ := by
  obtain ⟨c₀, hrun, hrest⟩ := (Option.any_eq_true _ _).1 h
  obtain ⟨hidle, hrest⟩ := (Bool.and_eq_true _ _).mp hrest
  obtain ⟨c, hreport, hrest⟩ := (Option.any_eq_true _ _).1 hrest
  obtain ⟨c₁, hstep, hrest⟩ := (Option.any_eq_true _ _).1 hrest
  obtain ⟨c₂, hrun', htest⟩ := (Option.any_eq_true _ _).1 hrest
  have hbefore := System.run_append hrun hreport
  have hafter : (mgr.program env).system.run c (.resume 0 :: ls') = some c₂ := by
    have hfirst : (mgr.program env).system.step c (.resume 0) = some c₁ := hstep
    rw [System.run_cons, hfirst]
    exact hrun'
  refine ⟨c, c₁, c₂, hbefore, ?_, hstep, hrun', htest, System.run_append hbefore hafter⟩
  obtain ⟨s₀, tasks⟩ := c₀
  obtain rfl : tasks = [] := List.isEmpty_iff.1 hidle
  have hreported : (mgr.program env).system.run ⟨s₀, []⟩ (reportSteps report) =
      some ⟨_, [reported mgr report]⟩ := run_reported
  cases hreport.symm.trans hreported
  rfl

end

theorem rechargeKind_confirms (env : OrderEnv) :
    rechargeKind.Confirms (RechargeOrder.rechargeOrderMgr env) where
  waits s ref obj hobj hstate := by
    have hid : obj.curStateId = RECHARGE_ORDER_STATE_ID.EXTERNAL_WAIT_ON_CHAIN := hstate
    change ∃ k, ((RechargeOrder.states env obj.curStateId).onChainCallback .external true ref
      obj.entity.walletTxId).segment s = _
    rw [hid]
    obtain ⟨k, hseg⟩ := segment_changeState (RechargeOrder.internalWaitOnChain env)
      RECHARGE_ORDER_STATE_ID.INTERNAL_WAIT_ON_CHAIN rfl hobj
    refine ⟨k, Eq.trans ?_ hseg⟩
    exact segment_verifyTxId_bind (fun obj : RechargeOrderObj => obj.entity.walletTxId) _ hobj
  others st hst ref txId := by
    change (RechargeOrder.states env st).onChainCallback .external true ref txId = pure ()
    cases st
    case EXTERNAL_WAIT_ON_CHAIN => exact absurd rfl hst
    all_goals rfl

theorem redemptionKind_confirms (env : OrderEnv) :
    redemptionKind.Confirms (RedemptionOrder.redemptionOrderMgr env) where
  waits s ref obj hobj hstate := by
    have hid : obj.curStateId = REDEMPTION_ORDER_STATE_ID.INTERNAL_WAIT_ON_CHAIN := hstate
    change ∃ k, ((RedemptionOrder.states env obj.curStateId).onChainCallback .internal true ref
      obj.entity.redemptionTxId).segment s = _
    rw [hid]
    obtain ⟨k, hseg⟩ := segment_changeState (RedemptionOrder.externalWaitOnChain env)
      REDEMPTION_ORDER_STATE_ID.EXTERNAL_WAIT_ON_CHAIN rfl hobj
    refine ⟨k, Eq.trans ?_ hseg⟩
    exact segment_verifyTxId_bind (fun obj : RedemptionOrderObj => obj.entity.redemptionTxId) _ hobj
  others st hst ref txId := by
    change (RedemptionOrder.states env st).onChainCallback .internal true ref txId = pure ()
    cases st
    case INTERNAL_WAIT_ON_CHAIN => exact absurd rfl hst
    all_goals rfl

/-- In every run: when the success of the incoming transaction is handed out, no state change of the
object is open, and the order has not failed by then, nor is about to, it does not fail by its
incoming transfer any more, as long as no object is made from a row that still waits for the
transaction. -/
theorem confirmation_kept (env : OrderEnv) :
    (∀ (s : OrderStore RechargeOrder) (ls ls' : List (Label OrderEvt OrderChoice))
      (c c₁ c₂ : OrderPool RechargeOrder RECHARGE_ORDER_STATE_ID) (i : Nat) (txId : JsString),
      (RechargeOrder.program env).system.run ⟨s, []⟩ ls = some c →
      c.tasks[i]? = some (reported (RechargeOrder.rechargeOrderMgr env) ⟨.external, true, txId⟩) →
      rechargeKind.takes txId c.store = true → rechargeKind.settled c = true →
      (RechargeOrder.program env).step c (.resume i) = some c₁ →
      (RechargeOrder.program env).system.Meets (Program.Allows fun s a =>
        rechargeKind.keepsConfirmed (RechargeOrder.rechargeOrderMgr env) s a = true) c₁ ls' →
      (RechargeOrder.program env).system.run c₁ ls' = some c₂ →
      c₂.store.row.state ≠ .EXTERNAL_ON_CHAIN_FAIL ∧
        ∀ ref obj, c₂.store.Live ref obj → obj.entity.state ≠ .EXTERNAL_ON_CHAIN_FAIL) ∧
    ∀ (s : OrderStore RedemptionOrder) (ls ls' : List (Label OrderEvt OrderChoice))
      (c c₁ c₂ : OrderPool RedemptionOrder REDEMPTION_ORDER_STATE_ID) (i : Nat) (txId : JsString),
      (RedemptionOrder.program env).system.run ⟨s, []⟩ ls = some c →
      c.tasks[i]? =
        some (reported (RedemptionOrder.redemptionOrderMgr env) ⟨.internal, true, txId⟩) →
      redemptionKind.takes txId c.store = true → redemptionKind.settled c = true →
      (RedemptionOrder.program env).step c (.resume i) = some c₁ →
      (RedemptionOrder.program env).system.Meets (Program.Allows fun s a =>
        redemptionKind.keepsConfirmed (RedemptionOrder.redemptionOrderMgr env) s a = true) c₁ ls' →
      (RedemptionOrder.program env).system.run c₁ ls' = some c₂ →
      c₂.store.row.state ≠ .INTERNAL_ON_CHAIN_FAIL ∧
        ∀ ref obj, c₂.store.Live ref obj → obj.entity.state ≠ .INTERNAL_ON_CHAIN_FAIL := by
  constructor
  · intro s ls ls' c c₁ c₂ i txId hrun htask htakes hsettled hstep hall hrun'
    exact RechargeOrder.kind_mgr.confirmed (rechargeKind_confirms env) hrun htask htakes hsettled
      hstep hall hrun'
  · intro s ls ls' c c₁ c₂ i txId hrun htask htakes hsettled hstep hall hrun'
    exact RedemptionOrder.kind_mgr.confirmed (redemptionKind_confirms env) hrun htask htakes
      hsettled hstep hall hrun'

namespace Sample

open Program

/-- A retry of the incoming transaction, and the `n` calls with which the new object is entered. -/
def retried (e : OrderEvt) (n : Nat) : List (Label OrderEvt OrderChoice) :=
  .event e :: awaits 0 .done 1 ++ awaits 0 (.flag true) 1 ++ awaits 0 .done 1 ++
    .event (.serveIpc ⟨0, 1⟩) :: awaits 1 .done n ++ awaits 0 (.flag true) 1

def failed (report : Report) : List (Label OrderEvt OrderChoice) :=
  .event (.onChain { report with success := false }) :: awaits 0 .done 2

def depositConfirmed : Report := ⟨.external, true, js "deposit"⟩

/-- The deposit fails and is retried. -/
def depositRetried : List (Label OrderEvt OrderChoice) :=
  .event .setOrderPending :: awaits 0 .done 3 ++ failed depositConfirmed ++
    retried .retryExternalOnChain 4

def burnConfirmed : Report := ⟨.internal, true, js "burn"⟩

/-- The same for a burn. -/
def burnRetried : List (Label OrderEvt OrderChoice) :=
  .event .setOrderPending :: awaits 0 .done 2 ++ failed burnConfirmed ++
    retried .retryInternalOnChain 3

/-- A failure that comes after the confirmation. -/
def lateFailure (report : Report) : List (Label OrderEvt OrderChoice) :=
  awaits 0 .done 1 ++ .event (.onChain { report with success := false }) :: awaits 0 .done 1

end Sample

open Sample

/-- After a retry the success comes first, and the old failure does no harm. -/
theorem confirmation_kept_sample :
    (∃ c, (RechargeOrder.program orderEnv).system.run ⟨{ row := rechargeOrder .ISSUE }, []⟩
        (depositRetried ++ reportSteps depositConfirmed ++
          .resume 0 :: lateFailure depositConfirmed) = some c ∧
      c.store.row.state ≠ .EXTERNAL_ON_CHAIN_FAIL ∧
      ∀ ref obj, c.store.Live ref obj → obj.entity.state ≠ .EXTERNAL_ON_CHAIN_FAIL) ∧
    ∃ c, (RedemptionOrder.program orderEnv).system.run ⟨{ row := redemptionOrder }, []⟩
        (burnRetried ++ reportSteps burnConfirmed ++ .resume 0 :: lateFailure burnConfirmed) =
        some c ∧ c.store.row.state ≠ .INTERNAL_ON_CHAIN_FAIL ∧
      ∀ ref obj, c.store.Live ref obj → obj.entity.state ≠ .INTERNAL_ON_CHAIN_FAIL := by
  constructor
  · obtain ⟨c, c₁, c₂, hrun, htasks, hstep, hrun', htest, hwhole⟩ :=
      exists_reported (RechargeOrder.rechargeOrderMgr orderEnv) orderEnv
        { row := rechargeOrder .ISSUE } depositRetried (lateFailure depositConfirmed)
        depositConfirmed
        (fun c c₁ _ => rechargeKind.takes (js "deposit") c.store && rechargeKind.settled c &&
          (RechargeOrder.program orderEnv).system.checks
            (fun c l => (Program.action c l).all
              (rechargeKind.keepsConfirmed (RechargeOrder.rechargeOrderMgr orderEnv) c.store))
            c₁ (lateFailure depositConfirmed))
        (by decide +kernel)
    simp only [Bool.and_eq_true] at htest
    exact ⟨c₂, hwhole, (confirmation_kept orderEnv).1 _ _ _ c c₁ c₂ 0 (js "deposit") hrun
      (by rw [htasks]; rfl) htest.1.1 htest.1.2 hstep (Program.meets_of_checks _ htest.2) hrun'⟩
  · obtain ⟨c, c₁, c₂, hrun, htasks, hstep, hrun', htest, hwhole⟩ :=
      exists_reported (RedemptionOrder.redemptionOrderMgr orderEnv) orderEnv
        { row := redemptionOrder } burnRetried (lateFailure burnConfirmed) burnConfirmed
        (fun c c₁ _ => redemptionKind.takes (js "burn") c.store && redemptionKind.settled c &&
          (RedemptionOrder.program orderEnv).system.checks
            (fun c l => (Program.action c l).all
              (redemptionKind.keepsConfirmed (RedemptionOrder.redemptionOrderMgr orderEnv) c.store))
            c₁ (lateFailure burnConfirmed))
        (by decide +kernel)
    simp only [Bool.and_eq_true] at htest
    exact ⟨c₂, hwhole, (confirmation_kept orderEnv).2 _ _ _ c c₁ c₂ 0 (js "burn") hrun
      (by rw [htasks]; rfl) htest.1.1 htest.1.2 hstep (Program.meets_of_checks _ htest.2) hrun'⟩

/-! ## A confirmation that is lost -/

/-- The failure from before the retry comes once more. For the recharge it comes first, and the
success finds no object; for the redemption the order worker restarts before the success is
saved. -/
theorem confirmation_lost :
    (¬ ∀ (env : OrderEnv) (order : RechargeOrder) (ls ls' : List (Label OrderEvt OrderChoice))
      (c c₁ c₂ : OrderPool RechargeOrder RECHARGE_ORDER_STATE_ID), order.New →
      (RechargeOrder.program env).system.run ⟨{ row := order }, []⟩ ls = some c →
      c.tasks =
        [reported (RechargeOrder.rechargeOrderMgr env) ⟨.external, true, order.walletTxId⟩] →
      (RechargeOrder.program env).step c (.resume 0) = some c₁ →
      (RechargeOrder.program env).system.run c₁ ls' = some c₂ →
      .event .retryExternalOnChain ∉ ls' → c₂.store.row.state ≠ .EXTERNAL_ON_CHAIN_FAIL) ∧
    ¬ ∀ (env : OrderEnv) (order : RedemptionOrder) (ls ls' : List (Label OrderEvt OrderChoice))
      (c c₁ c₂ : OrderPool RedemptionOrder REDEMPTION_ORDER_STATE_ID), order.New →
      (RedemptionOrder.program env).system.run ⟨{ row := order }, []⟩ ls = some c →
      c.tasks =
        [reported (RedemptionOrder.redemptionOrderMgr env)
          ⟨.internal, true, order.redemptionTxId⟩] →
      (RedemptionOrder.program env).step c (.resume 0) = some c₁ →
      (RedemptionOrder.program env).system.run c₁ ls' = some c₂ →
      .event .retryInternalOnChain ∉ ls' → c₂.store.row.state ≠ .INTERNAL_ON_CHAIN_FAIL := by
  constructor
  · intro h
    obtain ⟨c, c₁, c₂, hrun, htasks, hstep, hrun', htest, -⟩ :=
      exists_reported (RechargeOrder.rechargeOrderMgr orderEnv) orderEnv
        { row := rechargeOrder .ISSUE } (depositRetried ++ failed depositConfirmed) []
        depositConfirmed (fun _ _ c₂ => c₂.store.row.state = .EXTERNAL_ON_CHAIN_FAIL)
        (by decide +kernel)
    exact h orderEnv (rechargeOrder .ISSUE) _ [] c c₁ c₂ ⟨rfl, rfl⟩ hrun htasks hstep hrun'
      List.not_mem_nil (of_decide_eq_true htest)
  · intro h
    obtain ⟨c, c₁, c₂, hrun, htasks, hstep, hrun', htest, -⟩ :=
      exists_reported (RedemptionOrder.redemptionOrderMgr orderEnv) orderEnv
        { row := redemptionOrder } burnRetried
        (.event .restart :: .event .load :: Program.awaits 0 .done 2 ++ failed burnConfirmed)
        burnConfirmed (fun _ _ c₂ => c₂.store.row.state = .INTERNAL_ON_CHAIN_FAIL)
        (by decide +kernel)
    exact h orderEnv redemptionOrder _ _ c c₁ c₂ ⟨rfl, rfl⟩ hrun htasks hstep hrun'
      (by simp [failed, Program.awaits]) (of_decide_eq_true htest)

end CotServer
