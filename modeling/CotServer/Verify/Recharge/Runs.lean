import CotServer.Model.Sample
import CotServer.Verify.Recharge.Order

/-!
# Runs of recharge orders

No mint before a confirmed deposit: in every state that any sequence of steps leads to, an issue
that has come to its internal transaction has had its deposit confirmed. An order in `SUCCESS` has
had an internal success callback for a transaction created for it, or for the placeholder that its
`rechargeTxId` holds until there is one.

No double mint, with a condition: the placeholder is read before the create call is awaited and
overwritten after it, so two handlers that are suspended there together both start a transaction.
As long as that does not happen, at most one started transaction has not failed.
-/

namespace CotServer

open Async OrderCase

variable {ls : List (Label OrderEvt OrderChoice)}
  {c : OrderPool RechargeOrder RECHARGE_ORDER_STATE_ID}

theorem RechargeOrder.New.inv {s : OrderStore RechargeOrder} (h : s.row.New) (hfresh : s.Fresh)
    (env : OrderEnv) (alone : Prop) : (rechargeCase env s.row alone).Inv s := by
  refine inv_new rfl hfresh h.rechargeTxId ?_ ?_
  · simp [rechargeCase, rechargeTransfers, OrderEntity.state, h.state]
  · simp [rechargeCase, rechargeTransfers, OrderEntity.state, h.state]

/-! ## Confirmation -/

/-- An issue that is past its deposit, or for which an internal transaction was created, has had an
external success callback for its own `walletTxId`. An order in `SUCCESS` has had an internal
success callback for a transaction created for it or for the placeholder. -/
theorem rechargeOrder_confirmed (env : OrderEnv) (hdev : env.devTest = false)
    (s : OrderStore RechargeOrder) (hnew : s.row.New) (hfresh : s.Fresh)
    (hrun : (RechargeOrder.program env).system.run ⟨s, []⟩ ls = some c) :
    ∀ value ∈ c.store.values,
      (s.row.rechargeType = .ISSUE →
        (value.state = .INTERNAL_WAIT_ON_CHAIN ∨ value.state = .INTERNAL_ON_CHAIN_FAIL ∨
          value.state = .SUCCESS ∨ c.store.created ≠ []) →
        ⟨.external, true, value.walletTxId⟩ ∈ c.store.reports) ∧
      (value.state = .SUCCESS → ∃ txId, ⟨.internal, true, txId⟩ ∈ c.store.reports ∧
        (txId = value.entityId ∨ txId ∈ c.store.created)) := by
  have hI : (rechargeCase env s.row False).Inv c.store :=
    RechargeOrder.mgrSafe.inv (hnew.inv hfresh env False) not_false hrun
  intro value hvalue
  have hok := hI.value hvalue
  refine ⟨fun hissue hpast => ?_, fun hsuccess => ?_⟩
  · have hconfirmed : (rechargeCase env s.row False).Confirmed c.store := by
      rcases hpast with hst | hst | hst | hcreated
      · exact hok.state.confirmed (decide_eq_true (.inl hst))
      · exact hok.state.confirmed (decide_eq_true (.inr (.inl hst)))
      · exact hok.state.confirmed (decide_eq_true (.inr (.inr hst)))
      · obtain ⟨txId, htxId⟩ := List.exists_mem_of_ne_nil _ hcreated
        exact (hI.created txId htxId).2
    have hin : value.walletTxId = s.row.walletTxId := hok.inTx
    rw [hin]
    exact hconfirmed hdev (decide_eq_true hissue)
  · have hid : value.entityId = s.row.entityId := hok.entityId
    rw [hid]
    exact hok.state.paid hsuccess hdev

namespace Sample

open Program

/-- The deposit of an issue is confirmed. -/
def confirmDeposit : List (Label OrderEvt OrderChoice) :=
  .event .setOrderPending :: awaits 0 .done 3 ++
    .event (.onChain ⟨.external, true, js "deposit"⟩) :: awaits 0 .done 2

/-- The mint is created, started and confirmed. -/
def mintAndConfirm : List (Label OrderEvt OrderChoice) :=
  .event .queueInited :: .event (.queueWaited 0) :: awaits 0 .done 1 ++
    .event (.deliver .TO_TX_START false) :: awaits 0 .done 1 ++
    .event (.saveConfig config) ::
    .event (.setRWKeypair (js "RECHARGEV2_ACCOUNT_BIWMETA_USDT") (js "secret")) ::
    .event (.deliver (.TRY_TRANSFER (some .RECHARGEV2_ACCOUNT)) false) :: awaits 0 .done 1 ++
    awaits 0 (.text (js "mint")) 1 ++ awaits 0 .done 2 ++
    .event (.onChain ⟨.internal, true, js "mint"⟩) :: awaits 0 .done 4

end Sample

/-- An issue is confirmed, minted and successful. -/
theorem rechargeOrder_confirmed_minted :
    ∃ c, (RechargeOrder.program Sample.orderEnv).system.run
        ⟨{ row := Sample.rechargeOrder .ISSUE }, []⟩
        (Sample.confirmDeposit ++ Sample.mintAndConfirm) = some c ∧
      c.store.row.state = .SUCCESS ∧ c.store.created = [js "mint"] ∧
      ∀ value ∈ c.store.values,
        (RECHARGE_TYPE.ISSUE = .ISSUE →
          (value.state = .INTERNAL_WAIT_ON_CHAIN ∨ value.state = .INTERNAL_ON_CHAIN_FAIL ∨
            value.state = .SUCCESS ∨ c.store.created ≠ []) →
          ⟨.external, true, value.walletTxId⟩ ∈ c.store.reports) ∧
        (value.state = .SUCCESS → ∃ txId, ⟨.internal, true, txId⟩ ∈ c.store.reports ∧
          (txId = value.entityId ∨ txId ∈ c.store.created)) := by
  obtain ⟨c, hrun, hstate, hcreated⟩ : ∃ c, (RechargeOrder.program Sample.orderEnv).system.run
      ⟨{ row := Sample.rechargeOrder .ISSUE }, []⟩
      (Sample.confirmDeposit ++ Sample.mintAndConfirm) = some c ∧
    c.store.row.state = .SUCCESS ∧ c.store.created = [js "mint"] := ⟨_, rfl, rfl, rfl⟩
  exact ⟨c, hrun, hstate, hcreated, rechargeOrder_confirmed Sample.orderEnv rfl
    { row := Sample.rechargeOrder .ISSUE } ⟨rfl, rfl⟩ ⟨rfl, rfl, rfl⟩ hrun⟩

/-- A callback for the placeholder makes an issue successful for which nothing was created. -/
theorem rechargeOrder_success_without_mint :
    ¬ ∀ (env : OrderEnv) (order : RechargeOrder) (ls : List (Label OrderEvt OrderChoice))
      (c : OrderPool RechargeOrder RECHARGE_ORDER_STATE_ID), env.devTest = false → order.New →
      (RechargeOrder.program env).system.run ⟨{ row := order }, []⟩ ls = some c →
      c.store.row.state = .SUCCESS →
        ∃ txId, ⟨.internal, true, txId⟩ ∈ c.store.reports ∧ txId ∈ c.store.created := by
  intro h
  let ls := Sample.confirmDeposit ++
    .event (.onChain ⟨.internal, true, js "order"⟩) :: Program.awaits 0 .done 4
  obtain ⟨c, hrun, hstate, hcreated⟩ : ∃ c, (RechargeOrder.program Sample.orderEnv).system.run
      ⟨{ row := Sample.rechargeOrder .ISSUE }, []⟩ ls = some c ∧
    c.store.row.state = .SUCCESS ∧ c.store.created = [] := ⟨_, rfl, rfl, rfl⟩
  obtain ⟨txId, _, htxId⟩ := h Sample.orderEnv (Sample.rechargeOrder .ISSUE) ls c rfl ⟨rfl, rfl⟩
    hrun hstate
  rw [hcreated] at htxId
  exact absurd htxId List.not_mem_nil

/-! ## One live transaction -/

/-- In every run in which the order is taken up once and no create call returns after another one
has put its transaction into the order, at most one started internal transaction has not failed. -/
theorem rechargeOrder_oneLive (env : OrderEnv) (s : OrderStore RechargeOrder) (hnew : s.row.New)
    (hfresh : s.Fresh) (hrun : (RechargeOrder.program env).system.run ⟨s, []⟩ ls = some c)
    (honce : (RechargeOrder.program env).system.Meets
      (Program.Allows fun s a => takenUpOnce s a = true) ⟨s, []⟩ ls)
    (hnone : (RechargeOrder.program env).system.Meets
      (Program.Allows fun s a => replacesNone rechargeTransfers s a = true)
      ⟨s, []⟩ ls) :
    c.store.OneLive .internal :=
  RechargeOrder.mgrSafe.oneLive (C := rechargeCase env s.row True) (hnew.inv hfresh env True)
    trivial honce hnone hrun

namespace Sample

open Program

/-- An airdrop waits for its transaction, which is announced twice. -/
def announceTwice : List (Label OrderEvt OrderChoice) :=
  .event .setOrderPending :: awaits 0 .done 1 ++
    .event .queueInited :: .event (.queueWaited 0) :: awaits 0 .done 1 ++
    .event (.deliver .TO_TX_START false) :: awaits 0 .done 1 ++
    .event .mqReConnect :: awaits 0 .done 1 ++
    .event (.deliver .TO_TX_START false) :: awaits 0 .done 1 ++
    [.event (.setRWKeypair (js "AIRDROP_ACCOUNT") (js "secret"))]

def tryTransfer : Label OrderEvt OrderChoice :=
  .event (.deliver (.TRY_TRANSFER (some .RECHARGEV2_ACCOUNT)) false)

/-- The second message is delivered when the first has been dealt with. -/
def mintOnce : List (Label OrderEvt OrderChoice) :=
  announceTwice ++
    tryTransfer :: awaits 0 (.text (js "mint")) 1 ++ awaits 0 .done 2 ++
    tryTransfer :: awaits 0 .done 1

/-- Both messages are delivered before a transaction is created. -/
def mintTwice : List (Label OrderEvt OrderChoice) :=
  announceTwice ++
    tryTransfer :: tryTransfer ::
    awaits 0 (.text (js "mint")) 1 ++ awaits 1 (.text (js "mint again")) 1 ++
    awaits 1 .done 2 ++ awaits 0 .done 2

end Sample

/-- One handler after another: the second starts the transaction of the first. -/
theorem rechargeOrder_oneLive_mintOnce :
    ∃ c, (RechargeOrder.program Sample.orderEnv).system.run
        ⟨{ row := Sample.rechargeOrder .AIRDROP }, []⟩ Sample.mintOnce = some c ∧
      c.store.started = [js "mint", js "mint"] ∧ c.store.created = [js "mint"] ∧
      c.store.OneLive .internal := by
  obtain ⟨c, hrun, hstarted, hcreated⟩ : ∃ c, (RechargeOrder.program Sample.orderEnv).system.run
      ⟨{ row := Sample.rechargeOrder .AIRDROP }, []⟩ Sample.mintOnce = some c ∧
    c.store.started = [js "mint", js "mint"] ∧ c.store.created = [js "mint"] := ⟨_, rfl, rfl, rfl⟩
  exact ⟨c, hrun, hstarted, hcreated, rechargeOrder_oneLive Sample.orderEnv
    { row := Sample.rechargeOrder .AIRDROP } ⟨rfl, rfl⟩ ⟨rfl, rfl, rfl⟩ hrun
    (Program.meets_of_checks _ rfl) (Program.meets_of_checks _ rfl)⟩

/-- Two handlers that both find the placeholder start two transactions, and neither has failed. -/
theorem rechargeOrder_two_mints :
    ¬ ∀ (env : OrderEnv) (order : RechargeOrder) (ls : List (Label OrderEvt OrderChoice))
      (c : OrderPool RechargeOrder RECHARGE_ORDER_STATE_ID), order.New →
      (RechargeOrder.program env).system.run ⟨{ row := order }, []⟩ ls = some c →
      (RechargeOrder.program env).system.Meets
        (Program.Allows fun s a => takenUpOnce s a = true) ⟨{ row := order }, []⟩ ls →
      c.store.OneLive .internal := by
  intro h
  obtain ⟨c, hrun, hstarted, hcreated, hreports⟩ :
      ∃ c, (RechargeOrder.program Sample.orderEnv).system.run
        ⟨{ row := Sample.rechargeOrder .AIRDROP }, []⟩ Sample.mintTwice = some c ∧
      c.store.started = [js "mint", js "mint again"] ∧
      c.store.created = [js "mint again", js "mint"] ∧ c.store.reports = [] :=
    ⟨_, rfl, rfl, rfl, rfl⟩
  have hone := h Sample.orderEnv (Sample.rechargeOrder .AIRDROP) Sample.mintTwice c ⟨rfl, rfl⟩ hrun
    (Program.meets_of_checks _ rfl)
  have hsame := hone (js "mint") (by simp [hstarted]) (by simp [hcreated]) (by simp [hreports])
    (js "mint again") (by simp [hstarted]) (by simp [hcreated]) (by simp [hreports])
  exact absurd hsame (by decide)

end CotServer
