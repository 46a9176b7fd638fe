import CotServer.Model.Sample
import CotServer.Verify.Order.Failed
import CotServer.Verify.Recharge.Moves
import CotServer.Verify.Redemption.Moves

/-!
# Failed orders

An order fails with the failure of an outgoing transaction that exceeds the limit. A retry then
makes a new object that pays once more, so nothing of the old one may be under way. A message that
starts a transaction is only held back by what it finds when it is delivered: a recharge looks at
the number of failures, a redemption does not, and neither looks again after the create call.
-/

namespace CotServer

open Async OrderKind

/-- In every run that meets the condition, an order that has failed has the placeholder, no create
or start call for it is suspended, and every transaction that was started for it has been reported
failed. -/
theorem failed_noneLive (env : OrderEnv) :
    (∀ (s : OrderStore RechargeOrder) (ls : List (Label OrderEvt OrderChoice))
      (c : OrderPool RechargeOrder RECHARGE_ORDER_STATE_ID), s.row.New → s.Fresh →
      (RechargeOrder.program env).system.Meets
        (fun c l => rechargeKind.failsInTurn (RechargeOrder.rechargeOrderMgr env) env c l = true)
        ⟨s, []⟩ ls →
      (RechargeOrder.program env).system.run ⟨s, []⟩ ls = some c →
      (c.store.row.state = .INTERNAL_ON_CHAIN_FAIL → rechargeKind.NoneLive c c.store.row) ∧
        ∀ ref obj, c.store.Live ref obj → obj.entity.state = .INTERNAL_ON_CHAIN_FAIL →
          rechargeKind.NoneLive c obj.entity) ∧
    ∀ (s : OrderStore RedemptionOrder) (ls : List (Label OrderEvt OrderChoice))
      (c : OrderPool RedemptionOrder REDEMPTION_ORDER_STATE_ID), s.row.New → s.Fresh →
      (RedemptionOrder.program env).system.Meets
        (fun c l =>
          redemptionKind.failsInTurn (RedemptionOrder.redemptionOrderMgr env) env c l = true)
        ⟨s, []⟩ ls →
      (RedemptionOrder.program env).system.run ⟨s, []⟩ ls = some c →
      (c.store.row.state = .EXTERNAL_ON_CHAIN_FAIL → redemptionKind.NoneLive c c.store.row) ∧
        ∀ ref obj, c.store.Live ref obj → obj.entity.state = .EXTERNAL_ON_CHAIN_FAIL →
          redemptionKind.NoneLive c obj.entity := by
  constructor
  · intro s ls c hnew hfresh hall hrun
    exact RechargeOrder.kind_mgr.noneLive hnew.rechargeTxId hfresh hall hrun
  · intro s ls c hnew hfresh hall hrun
    exact RedemptionOrder.kind_mgr.noneLive hnew.walletTxId hfresh hall hrun

namespace Sample

open Program

def attempted (n : Nat) : JsString := js "attempt" ++ List.replicate n 0x2B

/-- A transaction is created and started, and fails. -/
def attempt (side : ChainSide) (message : OrderMessage) (n : Nat) :
    List (Label OrderEvt OrderChoice) :=
  .event (.deliver message false) :: awaits 0 (.text (attempted n)) 1 ++ awaits 0 .done 2 ++
    .event (.onChain ⟨side, false, attempted n⟩) :: awaits 0 .done 2

/-- As many attempts, after each of which the next message is published. -/
def attempts (side : ChainSide) (message : OrderMessage) : Nat → List (Label OrderEvt OrderChoice)
  | 0 => []
  | n + 1 => attempt side message n ++ .event (.clock 1000) :: .event .tick :: awaits 0 .done 1 ++
      attempts side message n

def tryTransferMessage : OrderMessage := .TRY_TRANSFER (some .RECHARGEV2_ACCOUNT)

/-- An airdrop that has failed as often as the limit allows. -/
def mintsFail : List (Label OrderEvt OrderChoice) :=
  .event .setOrderPending :: awaits 0 .done 1 ++
    .event .queueInited :: .event (.queueWaited 0) :: awaits 0 .done 1 ++
    .event (.deliver .TO_TX_START false) :: awaits 0 .done 1 ++
    .event (.setRWKeypair (js "AIRDROP_ACCOUNT") (js "secret")) ::
    attempts .internal tryTransferMessage 3

/-- The same for a redemption. -/
def payOutsFail : List (Label OrderEvt OrderChoice) :=
  .event .setOrderPending :: awaits 0 .done 2 ++
    .event (.onChain ⟨.internal, true, js "burn"⟩) :: awaits 0 .done 4 ++
    .event (.setExternalKeypair .TRON (js "TRX") account) ::
    attempts .external .TO_TX_START 3

end Sample

open Sample

/-- One attempt after another, until the order fails. -/
theorem failed_noneLive_sample :
    (∃ c, (RechargeOrder.program orderEnv).system.run ⟨{ row := rechargeOrder .AIRDROP }, []⟩
        (mintsFail ++ attempt .internal tryTransferMessage 3 ++ Program.awaits 0 .done 1) = some c ∧
      c.store.row.state = .INTERNAL_ON_CHAIN_FAIL ∧ rechargeKind.NoneLive c c.store.row) ∧
    ∃ c, (RedemptionOrder.program orderEnv).system.run ⟨{ row := redemptionOrder }, []⟩
        (payOutsFail ++ attempt .external .TO_TX_START 3 ++ Program.awaits 0 .done 1) = some c ∧
      c.store.row.state = .EXTERNAL_ON_CHAIN_FAIL ∧ redemptionKind.NoneLive c c.store.row := by
  constructor
  · obtain ⟨c, hrun, htest⟩ := (RechargeOrder.program orderEnv).system.exists_run
      ⟨{ row := rechargeOrder .AIRDROP }, []⟩
      (mintsFail ++ attempt .internal tryTransferMessage 3 ++ Program.awaits 0 .done 1)
      (fun c => c.store.row.state = .INTERNAL_ON_CHAIN_FAIL) (by decide +kernel)
    have hfail := of_decide_eq_true htest
    exact ⟨c, hrun, hfail, ((failed_noneLive orderEnv).1 _ _ c ⟨rfl, rfl⟩ ⟨rfl, rfl, rfl⟩
      (System.meets_of_checks (by decide +kernel)) hrun).1 hfail⟩
  · obtain ⟨c, hrun, htest⟩ := (RedemptionOrder.program orderEnv).system.exists_run
      ⟨{ row := redemptionOrder }, []⟩
      (payOutsFail ++ attempt .external .TO_TX_START 3 ++ Program.awaits 0 .done 1)
      (fun c => c.store.row.state = .EXTERNAL_ON_CHAIN_FAIL) (by decide +kernel)
    have hfail := of_decide_eq_true htest
    exact ⟨c, hrun, hfail, ((failed_noneLive orderEnv).2 _ _ c ⟨rfl, rfl⟩ ⟨rfl, rfl, rfl⟩
      (System.meets_of_checks (by decide +kernel)) hrun).1 hfail⟩

/-! ## Failed orders that are still paid -/

namespace Sample

open Program

/-- The message is delivered again before a transaction is created. Of the two that are created,
only the first fails, and the order fails with it. -/
def mintTwiceAndFail : List (Label OrderEvt OrderChoice) :=
  mintsFail ++ .event (.deliver tryTransferMessage true) ::
    .event (.deliver tryTransferMessage false) :: awaits 0 (.text (attempted 3)) 1 ++
    awaits 0 .done 2 ++ .event (.onChain ⟨.internal, false, attempted 3⟩) :: awaits 1 .done 3 ++
    awaits 0 (.text (attempted 4)) 1 ++ awaits 0 .done 2

/-- The message is delivered again while the last failure is saved. -/
def payOutAndFail : List (Label OrderEvt OrderChoice) :=
  payOutsFail ++ .event (.deliver .TO_TX_START true) :: awaits 0 (.text (attempted 3)) 1 ++
    awaits 0 .done 2 ++ .event (.onChain ⟨.external, false, attempted 3⟩) :: awaits 0 .done 1 ++
    .event (.deliver .TO_TX_START false) :: awaits 0 .done 2 ++
    awaits 0 (.text (attempted 4)) 1 ++ awaits 0 .done 2

end Sample

variable {E S : Type} [OrderEntity E S] {K : OrderKind E S} {c : OrderPool E S} {e : E}

/-- A transaction that has been started and has not failed. -/
theorem OrderKind.NoneLive.not_mem {txId : JsString} (h : K.NoneLive c e)
    (hid : txId ≠ OrderEntity.entityId e) (hreport : ⟨K.outgoing, false, txId⟩ ∉ c.store.reports) :
    txId ∉ c.store.started := by
  intro hmem
  rcases h.ended txId hmem with heq | hfailed
  · exact hid heq
  · exact hreport hfailed

theorem failed_stillLive :
    (¬ ∀ (env : OrderEnv) (order : RechargeOrder) (ls : List (Label OrderEvt OrderChoice))
      (c : OrderPool RechargeOrder RECHARGE_ORDER_STATE_ID), order.New →
      (RechargeOrder.program env).system.run ⟨{ row := order }, []⟩ ls = some c →
      c.store.row.state = .INTERNAL_ON_CHAIN_FAIL → rechargeKind.NoneLive c c.store.row) ∧
    ¬ ∀ (env : OrderEnv) (order : RedemptionOrder) (ls : List (Label OrderEvt OrderChoice))
      (c : OrderPool RedemptionOrder REDEMPTION_ORDER_STATE_ID), order.New →
      (RedemptionOrder.program env).system.run ⟨{ row := order }, []⟩ ls = some c →
      c.store.row.state = .EXTERNAL_ON_CHAIN_FAIL → redemptionKind.NoneLive c c.store.row := by
  constructor
  · intro h
    obtain ⟨c, hrun, htest⟩ := (RechargeOrder.program orderEnv).system.exists_run
      ⟨{ row := rechargeOrder .AIRDROP }, []⟩ mintTwiceAndFail
      (fun c => c.store.row.state = .INTERNAL_ON_CHAIN_FAIL &&
        attempted 4 ∈ c.store.started && attempted 4 ≠ c.store.row.entityId &&
        ⟨.internal, false, attempted 4⟩ ∉ c.store.reports) (by decide +kernel)
    simp only [Bool.and_eq_true, decide_eq_true_eq] at htest
    obtain ⟨⟨⟨hfail, hstarted⟩, hid⟩, hreport⟩ := htest
    exact (h orderEnv _ _ c ⟨rfl, rfl⟩ hrun hfail).not_mem hid hreport hstarted
  · intro h
    obtain ⟨c, hrun, htest⟩ := (RedemptionOrder.program orderEnv).system.exists_run
      ⟨{ row := redemptionOrder }, []⟩ payOutAndFail
      (fun c => c.store.row.state = .EXTERNAL_ON_CHAIN_FAIL &&
        attempted 4 ∈ c.store.started && attempted 4 ≠ c.store.row.entityId &&
        ⟨.external, false, attempted 4⟩ ∉ c.store.reports) (by decide +kernel)
    simp only [Bool.and_eq_true, decide_eq_true_eq] at htest
    obtain ⟨⟨⟨hfail, hstarted⟩, hid⟩, hreport⟩ := htest
    exact (h orderEnv _ _ c ⟨rfl, rfl⟩ hrun hfail).not_mem hid hreport hstarted

end CotServer
