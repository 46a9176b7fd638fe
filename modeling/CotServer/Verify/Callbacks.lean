import CotServer.Model.Sample
import CotServer.Verify.Order.Callbacks
import CotServer.Verify.Order.Handlers
import CotServer.Verify.Recharge.Moves
import CotServer.Verify.Redemption.Moves

/-!
# Stale and repeated callbacks

At-least-once delivery and the replacement of transactions that have failed mean that old reports
keep coming. In every run an object accepts the failure of a transaction at most once, and a report
on any other transaction than the current one changes nothing.
-/

namespace CotServer

open Async Moves

section

variable {E S : Type} [OrderEntity E S]

/-- Callbacks of the outgoing transaction do no harm. -/
structure OrderKind.Harmless (K : OrderKind E S) (mgr : OrderMgr E S) (s : OrderStore E) : Prop where
  once : ∀ ref, ∀ txId ∈ s.created, s.accepted.count (ref, txId) ≤ 1
  stale : ∀ ref obj success txId, s.Live ref obj → txId ≠ K.outTx obj.entity →
    ∃ r, (mgr.dispatch fun state ref =>
      state.onChainCallback K.outgoing success ref txId).segment s = (.done r, s)
  counted : (∀ report ∈ s.reports, report.side = K.outgoing →
      report.txId ≠ OrderEntity.entityId s.row) →
    ∀ ref obj, s.heap[ref]? = some obj →
      obj.retryTxNum = ((s.accepted.filter (·.1 = ref)).map (·.2)).dedup.length

variable {K : OrderKind E S} {env : OrderEnv} {mgr : OrderMgr E S} {s : OrderStore E}

variable (K mgr) in
/-- The handlers check the transaction before they do anything. -/
def OrderKind.ChecksTx : Prop :=
  ∀ (s : OrderStore E) ref obj success txId, s.heap[ref]? = some obj →
    txId ≠ K.outTx obj.entity →
    ∃ r, ((mgr.states obj.curStateId).onChainCallback K.outgoing success ref txId).segment s =
      (.done r, s)

omit [OrderEntity E S] in
/-- A report on another transaction is refused. -/
theorem segment_verifyTxId {ref : Ref} {obj : OrderObj E} {txId : JsString}
    {tx : OrderObj E → JsString} {e : OrderObj E → Err} {k : Unit → OrderAsync E S Unit}
    (hobj : s.heap[ref]? = some obj) (htx : txId ≠ tx obj) :
    (((do
      let obj ← OrderObj.getObj ref
      throwIf (txId ≠ tx obj) (e obj)) >>= k : OrderAsync E S Unit)).segment s =
      (.done (.error (e obj)), s) := by
  simp only [OrderObj.getObj, bind_def, Async.bind, store, Async.segment, hobj]
  simp [pure, Async.bind, throwIf, htx, Async.segment]

variable [DecidableEq S] in
/-- Every run from an order that has just been created keeps the invariant. -/
theorem OrderKind.MgrSafe.callbacksStore (h : K.MgrSafe env mgr)
    {ls : List (Label OrderEvt OrderChoice)} {c : OrderPool E S}
    (hout : K.outTx s.row = OrderEntity.entityId s.row) (hfresh : s.Fresh)
    (haccepted : s.accepted = []) (hrun : (mgr.program env).system.run ⟨s, []⟩ ls = some c) :
    K.CallbacksStore (OrderEntity.entityId s.row) c.store := by
  have hstart : K.Callbacks (OrderEntity.entityId s.row) env s 0 := by
    refine ⟨⟨⟨rfl, .inl hout⟩, ?_, ?_, ?_, ?_⟩, fun _ hspot => ?_, ?_⟩
    · simp [hfresh.heap]
    · simp [hfresh.created]
    · simp [haccepted]
    · simp [haccepted]
    · exact absurd hspot (Multiset.notMem_zero _)
    · simp
  have hall : (mgr.program env).system.Meets (Moves.Allows fun _ _ _ => True) ⟨s, []⟩ ls :=
    (System.meets_true _ _).mono fun _ _ _ _ _ => trivial
  obtain ⟨_, -, hJ⟩ := Moves.sound (callbacks_invariant h) h.starts (.idle hstart) hall hrun
  exact hJ.store

/-- What the invariant says about the callbacks. -/
theorem OrderKind.CallbacksStore.harmless {orderId : JsString} (h : K.CallbacksStore orderId s)
    (hchecks : K.ChecksTx mgr) : K.Harmless mgr s where
  once ref txId hcreated := by
    have hnodup := List.nodup_iff_count_le_one.1 h.once (ref, txId)
    rwa [List.count_filter] at hnodup
    simpa using h.created txId hcreated
  stale ref obj success txId hlive htx := by
    rw [segment_dispatch hlive]
    exact hchecks s ref obj success txId hlive.2 htx
  counted hreports ref obj hobj := by
    have hall : s.accepted.filter (·.2 ≠ orderId) = s.accepted := by
      rw [List.filter_eq_self]
      intro p hp
      have hne := hreports _ (h.accepted p hp).2.2 rfl
      rw [h.row.entityId] at hne
      simpa using hne
    have hnodup : (s.accepted.filter (·.1 = ref)).Nodup := by
      have honce := h.once
      rw [hall] at honce
      exact honce.filter _
    rw [(h.heap ref obj hobj).count, List.dedup_eq_self.2, List.length_map]
    apply hnodup.map_on
    intro p hp q hq heq
    simp only [List.mem_filter, decide_eq_true_eq] at hp hq
    exact Prod.ext (hp.2.trans hq.2.symm) heq

end

theorem rechargeKind_checksTx (env : OrderEnv) :
    rechargeKind.ChecksTx (RechargeOrder.rechargeOrderMgr env) := by
  intro s ref obj success txId hobj htx
  change ∃ r, ((RechargeOrder.states env obj.curStateId).onChainCallback .internal success ref
    txId).segment s = (.done r, s)
  cases obj.curStateId <;> cases success <;> try exact ⟨_, rfl⟩
  case INTERNAL_WAIT_ON_CHAIN.true => exact ⟨_, segment_verifyTxId hobj htx⟩
  case INTERNAL_WAIT_ON_CHAIN.false => exact ⟨_, segment_verifyTxId hobj htx⟩

theorem redemptionKind_checksTx (env : OrderEnv) :
    redemptionKind.ChecksTx (RedemptionOrder.redemptionOrderMgr env) := by
  intro s ref obj success txId hobj htx
  change ∃ r, ((RedemptionOrder.states env obj.curStateId).onChainCallback .external success ref
    txId).segment s = (.done r, s)
  cases obj.curStateId <;> cases success <;> try exact ⟨_, rfl⟩
  case EXTERNAL_WAIT_ON_CHAIN.true => exact ⟨_, segment_verifyTxId hobj htx⟩
  case EXTERNAL_WAIT_ON_CHAIN.false => exact ⟨_, segment_verifyTxId hobj htx⟩

/-- In every run, from an order that has just been created: each object accepts the failure of a
transaction at most once, a callback for another transaction than the current one changes nothing,
and an object that has had no callback for the placeholder has counted the transactions whose
failure it has accepted. -/
theorem callbacks_harmless (env : OrderEnv) :
    (∀ (s : OrderStore RechargeOrder) (ls : List (Label OrderEvt OrderChoice))
      (c : OrderPool RechargeOrder RECHARGE_ORDER_STATE_ID), s.row.New → s.Fresh →
      s.accepted = [] → (RechargeOrder.program env).system.run ⟨s, []⟩ ls = some c →
      rechargeKind.Harmless (RechargeOrder.rechargeOrderMgr env) c.store) ∧
    ∀ (s : OrderStore RedemptionOrder) (ls : List (Label OrderEvt OrderChoice))
      (c : OrderPool RedemptionOrder REDEMPTION_ORDER_STATE_ID), s.row.New → s.Fresh →
      s.accepted = [] → (RedemptionOrder.program env).system.run ⟨s, []⟩ ls = some c →
      redemptionKind.Harmless (RedemptionOrder.redemptionOrderMgr env) c.store := by
  constructor
  · intro s ls c hnew hfresh haccepted hrun
    have hstore := RechargeOrder.kind_mgr.callbacksStore hnew.rechargeTxId hfresh haccepted hrun
    exact hstore.harmless (rechargeKind_checksTx env)
  · intro s ls c hnew hfresh haccepted hrun
    have hstore := RedemptionOrder.kind_mgr.callbacksStore hnew.walletTxId hfresh haccepted hrun
    exact hstore.harmless (redemptionKind_checksTx env)

namespace Sample

open Program

/-- The mint fails, and its failure is reported twice. -/
def mintFailsTwice : List (Label OrderEvt OrderChoice) :=
  .event .setOrderPending :: awaits 0 .done 1 ++
    .event .queueInited :: .event (.queueWaited 0) :: awaits 0 .done 1 ++
    .event (.deliver .TO_TX_START false) :: awaits 0 .done 1 ++
    .event (.setRWKeypair (js "AIRDROP_ACCOUNT") (js "secret")) ::
    .event (.deliver (.TRY_TRANSFER (some .RECHARGEV2_ACCOUNT)) false) ::
    awaits 0 (.text (js "mint")) 1 ++ awaits 0 .done 2 ++
    .event (.onChain ⟨.internal, false, js "mint"⟩) :: awaits 0 .done 2 ++
    .event (.onChain ⟨.internal, false, js "mint"⟩) :: awaits 0 .done 1

/-- The same for a payout. -/
def payOutFailsTwice : List (Label OrderEvt OrderChoice) :=
  .event .setOrderPending :: awaits 0 .done 2 ++
    .event (.onChain ⟨.internal, true, js "burn"⟩) :: awaits 0 .done 4 ++
    .event (.setExternalKeypair .TRON (js "TRX") account) ::
    .event (.deliver .TO_TX_START false) ::
    awaits 0 (.text (js "payout")) 1 ++ awaits 0 .done 2 ++
    .event (.onChain ⟨.external, false, js "payout"⟩) :: awaits 0 .done 2 ++
    .event (.onChain ⟨.external, false, js "payout"⟩) :: awaits 0 .done 1

end Sample

/-- A failure that is reported twice is counted once. -/
theorem callbacks_harmless_sample :
    (∃ c, (RechargeOrder.program Sample.orderEnv).system.run
        ⟨{ row := Sample.rechargeOrder .AIRDROP }, []⟩ Sample.mintFailsTwice = some c ∧
      c.store.accepted = [(0, js "mint")] ∧
      rechargeKind.Harmless (RechargeOrder.rechargeOrderMgr Sample.orderEnv) c.store) ∧
    ∃ c, (RedemptionOrder.program Sample.orderEnv).system.run
        ⟨{ row := Sample.redemptionOrder }, []⟩ Sample.payOutFailsTwice = some c ∧
      c.store.accepted = [(0, js "payout")] ∧
      redemptionKind.Harmless (RedemptionOrder.redemptionOrderMgr Sample.orderEnv) c.store := by
  constructor
  · obtain ⟨c, hrun, haccepted⟩ : ∃ c, (RechargeOrder.program Sample.orderEnv).system.run
        ⟨{ row := Sample.rechargeOrder .AIRDROP }, []⟩ Sample.mintFailsTwice = some c ∧
      c.store.accepted = [(0, js "mint")] := ⟨_, rfl, rfl⟩
    exact ⟨c, hrun, haccepted, (callbacks_harmless Sample.orderEnv).1 _ _ c ⟨rfl, rfl⟩
      ⟨rfl, rfl, rfl⟩ rfl hrun⟩
  · obtain ⟨c, hrun, haccepted⟩ : ∃ c, (RedemptionOrder.program Sample.orderEnv).system.run
        ⟨{ row := Sample.redemptionOrder }, []⟩ Sample.payOutFailsTwice = some c ∧
      c.store.accepted = [(0, js "payout")] := ⟨_, rfl, rfl⟩
    exact ⟨c, hrun, haccepted, (callbacks_harmless Sample.orderEnv).2 _ _ c ⟨rfl, rfl⟩
      ⟨rfl, rfl, rfl⟩ rfl hrun⟩

end CotServer
