import CotServer.Model.Sample
import CotServer.Verify.Redemption.Order

/-!
# Runs of redemption orders

No payout before a confirmed burn: in every state that any sequence of steps leads to, an order
that has come to its external transfer has had its burn confirmed. An order in `SUCCESS` has had an
external success callback for a transfer created for it, or for the placeholder that its
`walletTxId` holds until there is one.

No double payout, with the same condition as for the mint of a recharge.
-/

namespace CotServer

open Async OrderCase

variable {ls : List (Label OrderEvt OrderChoice)}
  {c : OrderPool RedemptionOrder REDEMPTION_ORDER_STATE_ID}

theorem RedemptionOrder.New.inv {s : OrderStore RedemptionOrder} (h : s.row.New) (hfresh : s.Fresh)
    (env : OrderEnv) (alone : Prop) : (redemptionCase env s.row alone).Inv s := by
  refine inv_new rfl hfresh h.walletTxId ?_ ?_
  · simp [redemptionCase, redemptionTransfers, OrderEntity.state, h.state]
  · simp [redemptionCase, redemptionTransfers, OrderEntity.state, h.state]

/-! ## Confirmation -/

/-- An order that is past its burn, or for which an external transfer was created, has had an
internal success callback for its own `redemptionTxId`. An order in `SUCCESS` has had an external
success callback for a transfer created for it or for the placeholder. -/
theorem redemptionOrder_confirmed (env : OrderEnv) (hdev : env.devTest = false)
    (s : OrderStore RedemptionOrder) (hnew : s.row.New) (hfresh : s.Fresh)
    (hrun : (RedemptionOrder.program env).system.run ⟨s, []⟩ ls = some c) :
    ∀ value ∈ c.store.values,
      ((value.state = .EXTERNAL_WAIT_ON_CHAIN ∨ value.state = .EXTERNAL_ON_CHAIN_FAIL ∨
          value.state = .SUCCESS ∨ c.store.created ≠ []) →
        ⟨.internal, true, value.redemptionTxId⟩ ∈ c.store.reports) ∧
      (value.state = .SUCCESS → ∃ txId, ⟨.external, true, txId⟩ ∈ c.store.reports ∧
        (txId = value.entityId ∨ txId ∈ c.store.created)) := by
  have hI : (redemptionCase env s.row False).Inv c.store :=
    RedemptionOrder.mgrSafe.inv (hnew.inv hfresh env False) not_false hrun
  intro value hvalue
  have hok := hI.value hvalue
  refine ⟨fun hpast => ?_, fun hsuccess => ?_⟩
  · have hconfirmed : (redemptionCase env s.row False).Confirmed c.store := by
      rcases hpast with hst | hst | hst | hcreated
      · exact hok.state.confirmed (decide_eq_true (.inl hst))
      · exact hok.state.confirmed (decide_eq_true (.inr (.inl hst)))
      · exact hok.state.confirmed (decide_eq_true (.inr (.inr hst)))
      · obtain ⟨txId, htxId⟩ := List.exists_mem_of_ne_nil _ hcreated
        exact (hI.created txId htxId).2
    have hin : value.redemptionTxId = s.row.redemptionTxId := hok.inTx
    rw [hin]
    exact hconfirmed hdev rfl
  · have hid : value.entityId = s.row.entityId := hok.entityId
    rw [hid]
    exact hok.state.paid hsuccess hdev

namespace Sample

open Program

/-- The burn is confirmed, and the payout is announced. -/
def confirmBurn : List (Label OrderEvt OrderChoice) :=
  .event .setOrderPending :: awaits 0 .done 2 ++
    .event (.onChain ⟨.internal, true, js "burn"⟩) :: awaits 0 .done 4

def payOut : Label OrderEvt OrderChoice := .event (.deliver .TO_TX_START false)

def injectAccount : Label OrderEvt OrderChoice :=
  .event (.setExternalKeypair .TRON (js "TRX") account)

/-- The payout is created, started and confirmed. -/
def payOutAndConfirm : List (Label OrderEvt OrderChoice) :=
  injectAccount :: payOut :: awaits 0 (.text (js "payout")) 1 ++ awaits 0 .done 2 ++
    .event (.onChain ⟨.external, true, js "payout"⟩) :: awaits 0 .done 3

end Sample

/-- A redemption is confirmed, paid out and successful. -/
theorem redemptionOrder_confirmed_paidOut :
    ∃ c, (RedemptionOrder.program Sample.orderEnv).system.run
        ⟨{ row := Sample.redemptionOrder }, []⟩
        (Sample.confirmBurn ++ Sample.payOutAndConfirm) = some c ∧
      c.store.row.state = .SUCCESS ∧ c.store.created = [js "payout"] ∧
      ∀ value ∈ c.store.values,
        ((value.state = .EXTERNAL_WAIT_ON_CHAIN ∨ value.state = .EXTERNAL_ON_CHAIN_FAIL ∨
            value.state = .SUCCESS ∨ c.store.created ≠ []) →
          ⟨.internal, true, value.redemptionTxId⟩ ∈ c.store.reports) ∧
        (value.state = .SUCCESS → ∃ txId, ⟨.external, true, txId⟩ ∈ c.store.reports ∧
          (txId = value.entityId ∨ txId ∈ c.store.created)) := by
  obtain ⟨c, hrun, hstate, hcreated⟩ : ∃ c, (RedemptionOrder.program Sample.orderEnv).system.run
      ⟨{ row := Sample.redemptionOrder }, []⟩
      (Sample.confirmBurn ++ Sample.payOutAndConfirm) = some c ∧
    c.store.row.state = .SUCCESS ∧ c.store.created = [js "payout"] := ⟨_, rfl, rfl, rfl⟩
  exact ⟨c, hrun, hstate, hcreated, redemptionOrder_confirmed Sample.orderEnv rfl
    { row := Sample.redemptionOrder } ⟨rfl, rfl⟩ ⟨rfl, rfl, rfl⟩ hrun⟩

/-- A callback for the placeholder makes a redemption successful that was not paid out. -/
theorem redemptionOrder_success_without_payout :
    ¬ ∀ (env : OrderEnv) (order : RedemptionOrder) (ls : List (Label OrderEvt OrderChoice))
      (c : OrderPool RedemptionOrder REDEMPTION_ORDER_STATE_ID), env.devTest = false → order.New →
      (RedemptionOrder.program env).system.run ⟨{ row := order }, []⟩ ls = some c →
      c.store.row.state = .SUCCESS →
        ∃ txId, ⟨.external, true, txId⟩ ∈ c.store.reports ∧ txId ∈ c.store.created := by
  intro h
  let ls := Sample.confirmBurn ++
    .event (.onChain ⟨.external, true, js "order"⟩) :: Program.awaits 0 .done 3
  obtain ⟨c, hrun, hstate, hcreated⟩ : ∃ c, (RedemptionOrder.program Sample.orderEnv).system.run
      ⟨{ row := Sample.redemptionOrder }, []⟩ ls = some c ∧
    c.store.row.state = .SUCCESS ∧ c.store.created = [] := ⟨_, rfl, rfl, rfl⟩
  obtain ⟨txId, _, htxId⟩ := h Sample.orderEnv Sample.redemptionOrder ls c rfl ⟨rfl, rfl⟩ hrun
    hstate
  rw [hcreated] at htxId
  exact absurd htxId List.not_mem_nil

/-! ## One live transaction -/

/-- In every run in which the order is taken up once and no create call returns after another one
has put its transaction into the order, at most one started external transfer has not failed. -/
theorem redemptionOrder_oneLive (env : OrderEnv) (s : OrderStore RedemptionOrder) (hnew : s.row.New)
    (hfresh : s.Fresh) (hrun : (RedemptionOrder.program env).system.run ⟨s, []⟩ ls = some c)
    (honce : (RedemptionOrder.program env).system.Meets
      (Program.Allows fun s a => takenUpOnce s a = true) ⟨s, []⟩ ls)
    (hnone : (RedemptionOrder.program env).system.Meets
      (Program.Allows fun s a => replacesNone redemptionTransfers s a = true)
      ⟨s, []⟩ ls) :
    c.store.OneLive .external :=
  RedemptionOrder.mgrSafe.oneLive (C := redemptionCase env s.row True) (hnew.inv hfresh env True)
    trivial honce hnone hrun

namespace Sample

open Program

/-- The payout is announced once more by a reconnect. -/
def announcePayOutTwice : List (Label OrderEvt OrderChoice) :=
  confirmBurn ++ .event .mqReConnect :: awaits 0 .done 1 ++ [injectAccount]

/-- The second message is delivered when the first has been dealt with. -/
def payOutOnce : List (Label OrderEvt OrderChoice) :=
  announcePayOutTwice ++
    payOut :: awaits 0 (.text (js "payout")) 1 ++ awaits 0 .done 2 ++
    payOut :: awaits 0 .done 1

/-- Both messages are delivered before a transfer is created. -/
def payOutTwice : List (Label OrderEvt OrderChoice) :=
  announcePayOutTwice ++
    payOut :: payOut ::
    awaits 0 (.text (js "payout")) 1 ++ awaits 0 .done 2 ++
    awaits 0 (.text (js "payout again")) 1 ++ awaits 0 .done 2

end Sample

/-- One handler after another: the second starts the transfer of the first. -/
theorem redemptionOrder_oneLive_payOutOnce :
    ∃ c, (RedemptionOrder.program Sample.orderEnv).system.run
        ⟨{ row := Sample.redemptionOrder }, []⟩ Sample.payOutOnce = some c ∧
      c.store.started = [js "payout", js "payout"] ∧ c.store.created = [js "payout"] ∧
      c.store.OneLive .external := by
  obtain ⟨c, hrun, hstarted, hcreated⟩ : ∃ c, (RedemptionOrder.program Sample.orderEnv).system.run
      ⟨{ row := Sample.redemptionOrder }, []⟩ Sample.payOutOnce = some c ∧
    c.store.started = [js "payout", js "payout"] ∧ c.store.created = [js "payout"] :=
    ⟨_, rfl, rfl, rfl⟩
  exact ⟨c, hrun, hstarted, hcreated, redemptionOrder_oneLive Sample.orderEnv
    { row := Sample.redemptionOrder } ⟨rfl, rfl⟩ ⟨rfl, rfl, rfl⟩ hrun
    (Program.meets_of_checks _ rfl) (Program.meets_of_checks _ rfl)⟩

/-- Two handlers that both find the placeholder start two transfers, and neither has failed. -/
theorem redemptionOrder_two_payouts :
    ¬ ∀ (env : OrderEnv) (order : RedemptionOrder) (ls : List (Label OrderEvt OrderChoice))
      (c : OrderPool RedemptionOrder REDEMPTION_ORDER_STATE_ID), order.New →
      (RedemptionOrder.program env).system.run ⟨{ row := order }, []⟩ ls = some c →
      (RedemptionOrder.program env).system.Meets
        (Program.Allows fun s a => takenUpOnce s a = true) ⟨{ row := order }, []⟩ ls →
      c.store.OneLive .external := by
  intro h
  obtain ⟨c, hrun, hstarted, hcreated, hreports⟩ :
      ∃ c, (RedemptionOrder.program Sample.orderEnv).system.run
        ⟨{ row := Sample.redemptionOrder }, []⟩ Sample.payOutTwice = some c ∧
      c.store.started = [js "payout again", js "payout"] ∧
      c.store.created = [js "payout again", js "payout"] ∧
      c.store.reports = [⟨.internal, true, js "burn"⟩] := ⟨_, rfl, rfl, rfl, rfl⟩
  have hone := h Sample.orderEnv Sample.redemptionOrder Sample.payOutTwice c ⟨rfl, rfl⟩ hrun
    (Program.meets_of_checks _ rfl)
  have hsame := hone (js "payout") (by simp [hstarted]) (by simp [hcreated]) (by simp [hreports])
    (js "payout again") (by simp [hstarted]) (by simp [hcreated]) (by simp [hreports])
  exact absurd hsame (by decide)

end CotServer
