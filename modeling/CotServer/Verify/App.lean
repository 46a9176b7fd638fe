import CotServer.Verify.Order.App
import CotServer.Verify.Recharge.Runs
import CotServer.Verify.Redemption.Runs

/-!
# Runs of the order app

Every order of the app runs as if it were alone. Since the wallet reports a transaction to the one
order that it is linked to, no transfer counts for two orders, however many orders there are and
however their functions interleave.
-/

namespace CotServer

open Async

variable {env : AppEnv} {x : OrderId} {ls : List (Label AppEvt OrderChoice)}
  {c : Pool AppStore (FamilyAns AppOp.Ans OrderId.Ans) Err OrderProcess}

/-- The app as a system. -/
abbrev AppEnv.system (env : AppEnv) := (OrderApp.program env).system

/-- The row that a step inserts. -/
def insertOf : Label AppEvt OrderChoice → Option (Σ x : OrderId, x.type.Entity)
  | .event (.insert x row) => some ⟨x, row⟩
  | _ => none

theorem meets_insertsNew (h : ∀ row ∈ ls.filterMap insertOf, NewRow row.1 row.2)
    (c : Pool AppStore (FamilyAns AppOp.Ans OrderId.Ans) Err OrderProcess) :
    env.system.Meets (Program.Allows (Inserts NewRow)) c ls := by
  have hrows : ∀ x row, .event (.insert x row) ∈ ls → NewRow x row :=
    fun x row hrow => h ⟨x, row⟩ (List.mem_filterMap.2 ⟨_, hrow, rfl⟩)
  exact (meets_brings hrows (fun _ _ => trivial) c).mono fun c l hl a ha =>
    inserts_iff.2 (hl a ha)

/-- An order since a service has created it. -/
theorem order_run_new (hnew : env.system.Meets (Program.Allows (Inserts NewRow)) ⟨{}, []⟩ ls)
    (hrun : env.system.run ⟨{}, []⟩ ls = some c) (x : OrderId) :
    Absent x (AppStore.order x) noOrder (env.program x) (env.Hears (fun _ => True) x) c ∨
      ∃ u ls' d, Inserted NewRow x u ∧ (env.program x).system.run ⟨u, []⟩ ls' = some d ∧
        (env.program x).system.Meets (Program.Allows (env.Hears (fun _ => True) x)) ⟨u, []⟩ ls' ∧
        Tracks x (AppStore.order x) noOrder (env.program x) (env.Hears (fun _ => True) x) c d :=
  order_run (hnew.mono fun _ _ hl a ha => inserts_iff.1 (hl a ha)) hrun x

/-- In every run of the app with all of its orders, an order is not there and the app waits for no
call in its name, or it has come, in a run of its own program since its row was inserted, to where
the app has it: with the same store, and waiting for the same calls. In that run the wallet only
reports transactions that are linked to the order. -/
theorem orders_run_alone (env : AppEnv)
    (hnew : env.system.Meets (Program.Allows (Inserts NewRow)) ⟨{}, []⟩ ls)
    (hrun : env.system.run ⟨{}, []⟩ ls = some c) (x : OrderId) :
    (c.store.getOrder x = none ∧ ∀ T ∈ c.tasks, callOf x T.op = none) ∨
      ∃ u ls' d, Inserted NewRow x u ∧ (env.program x).system.run ⟨u, []⟩ ls' = some d ∧
        (env.program x).system.Meets (Program.Allows (env.Linked x)) ⟨u, []⟩ ls' ∧
        c.store.getOrder x = some d.store ∧
        (c.tasks.filterMap fun T => callOf x T.op).Perm (d.tasks.map (·.op)) := by
  rcases order_run_new hnew hrun x with habsent | ⟨u, ls', d, hu, hrun', hhears, htracks⟩
  · exact .inl ⟨habsent.store, habsent.calls⟩
  · exact .inr ⟨u, ls', d, hu, hrun', hhears.mono fun _ _ hl a ha => linked_iff.2 (hl a ha),
      htracks.store, htracks.calls⟩

/-! ## Transfers -/

namespace ORDER_TYPE

def transfers : (type : ORDER_TYPE) → Transfers type.Entity type.State
  | RECHARGE => rechargeTransfers
  | REDEMPTION => redemptionTransfers

end ORDER_TYPE

section

variable {E S : Type} [OrderEntity E S] [DecidableEq S] {C : OrderCase E S} {s : OrderStore E}
  {value : E}

/-- The transfers that an order counts on have been reported. -/
theorem OrderCase.Inv.reported (hI : C.Inv s) (hdev : C.env.devTest = false)
    (hvalue : value ∈ s.values) :
    (C.transfers.deposits value = true → C.transfers.confirmed (OrderEntity.state value) = true →
      ⟨C.transfers.incoming, true, C.transfers.inTx value⟩ ∈ s.reports) ∧
    (OrderEntity.state value = C.transfers.success → ∃ txId,
      ⟨C.transfers.outgoing, true, txId⟩ ∈ s.reports ∧ (txId = C.orderId ∨ txId ∈ s.created)) := by
  have hok := hI.value hvalue
  refine ⟨fun hdeposits hstate => ?_, fun hsuccess => hok.state.paid hsuccess hdev⟩
  rw [hok.inTx]
  exact hok.state.confirmed hstate hdev (hok.deposits ▸ hdeposits)

end

/-- An order of the app and its transfers. -/
theorem order_reported (hdev : ∀ type, (env.orderEnv type).devTest = false)
    (hnew : env.system.Meets (Program.Allows (Inserts NewRow)) ⟨{}, []⟩ ls)
    (hrun : env.system.run ⟨{}, []⟩ ls = some c) {u : x.Store} {value : x.type.Entity}
    (hx : c.store.getOrder x = some u) (hvalue : value ∈ u.values) :
    (x.type.transfers.deposits value = true →
      x.type.transfers.confirmed (OrderEntity.state value) = true →
        ⟨x.type.transfers.incoming, true, x.type.transfers.inTx value⟩ ∈ u.reports) ∧
    (OrderEntity.state value = x.type.transfers.success → ∃ txId,
      ⟨x.type.transfers.outgoing, true, txId⟩ ∈ u.reports ∧ (txId = x.id ∨ txId ∈ u.created)) ∧
    ∀ report ∈ u.reports, env.linkOf report.side report.txId = some x := by
  rcases order_run_new hnew hrun x with habsent | ⟨u₀, ls', d, hu₀, hrun', hhears, htracks⟩
  · cases habsent.store.symm.trans hx
  · cases htracks.store.symm.trans hx
    obtain ⟨m, row, rfl, hid, hrow⟩ := hu₀
    have hreports := fun report hreport => (reports_heard rfl hrun' hhears report hreport).1
    obtain ⟨_ | _, id⟩ := x
    · have hI : (rechargeCase (env.orderEnv .RECHARGE) row False).Inv d.store :=
        RechargeOrder.mgrSafe.inv (RechargeOrder.New.inv
          (s := ({ row } : OrderStore RechargeOrder).withMemory m) hrow ⟨rfl, rfl, rfl⟩ _ _)
          not_false hrun'
      obtain ⟨hincoming, houtgoing⟩ := hI.reported (hdev .RECHARGE) hvalue
      exact ⟨hincoming, fun hsuccess => hid ▸ houtgoing hsuccess, hreports⟩
    · have hI : (redemptionCase (env.orderEnv .REDEMPTION) row False).Inv d.store :=
        RedemptionOrder.mgrSafe.inv (RedemptionOrder.New.inv
          (s := ({ row } : OrderStore RedemptionOrder).withMemory m) hrow ⟨rfl, rfl, rfl⟩ _ _)
          not_false hrun'
      obtain ⟨hincoming, houtgoing⟩ := hI.reported (hdev .REDEMPTION) hvalue
      exact ⟨hincoming, fun hsuccess => hid ▸ houtgoing hsuccess, hreports⟩

/-- A recharge that is past its deposit. -/
def RechargeOrder.Deposited (order : RechargeOrder) : Prop :=
  order.rechargeType = .ISSUE ∧ (order.state = .INTERNAL_WAIT_ON_CHAIN ∨
    order.state = .INTERNAL_ON_CHAIN_FAIL ∨ order.state = .SUCCESS)

/-- A redemption that is past its burn. -/
def RedemptionOrder.Burned (order : RedemptionOrder) : Prop :=
  order.state = .EXTERNAL_WAIT_ON_CHAIN ∨ order.state = .EXTERNAL_ON_CHAIN_FAIL ∨
    order.state = .SUCCESS

/-- In every run of the app outside the development test, no deposit carries two recharges on, and
no burn two redemptions, even where two orders name the same transaction. -/
theorem incoming_counts_once (env : AppEnv) (hdev : ∀ type, (env.orderEnv type).devTest = false)
    (hnew : env.system.Meets (Program.Allows (Inserts NewRow)) ⟨{}, []⟩ ls)
    (hrun : env.system.run ⟨{}, []⟩ ls = some c) :
    (∀ id id' u u', c.store.getOrder ⟨.RECHARGE, id⟩ = some u →
      c.store.getOrder ⟨.RECHARGE, id'⟩ = some u' → ∀ value ∈ u.values, ∀ value' ∈ u'.values,
        RechargeOrder.Deposited value → RechargeOrder.Deposited value' →
          RechargeOrder.walletTxId value = RechargeOrder.walletTxId value' → id = id') ∧
    ∀ id id' u u', c.store.getOrder ⟨.REDEMPTION, id⟩ = some u →
      c.store.getOrder ⟨.REDEMPTION, id'⟩ = some u' → ∀ value ∈ u.values, ∀ value' ∈ u'.values,
        RedemptionOrder.Burned value → RedemptionOrder.Burned value' →
          RedemptionOrder.redemptionTxId value = RedemptionOrder.redemptionTxId value' →
            id = id' := by
  constructor
  · intro id id' u u' hu hu' value hvalue value' hvalue' hpast hpast' htx
    obtain ⟨hreported, -, hlinked⟩ := order_reported hdev hnew hrun hu hvalue
    obtain ⟨hreported', -, hlinked'⟩ := order_reported hdev hnew hrun hu' hvalue'
    have hlink := hlinked _ (hreported (decide_eq_true hpast.1) (decide_eq_true hpast.2))
    have hlink' := hlinked' _ (hreported' (decide_eq_true hpast'.1) (decide_eq_true hpast'.2))
    have hsame : env.linkOf .external (RechargeOrder.walletTxId value) =
        env.linkOf .external (RechargeOrder.walletTxId value') := congrArg _ htx
    cases hlink.symm.trans (hsame.trans hlink')
    rfl
  · intro id id' u u' hu hu' value hvalue value' hvalue' hpast hpast' htx
    obtain ⟨hreported, -, hlinked⟩ := order_reported hdev hnew hrun hu hvalue
    obtain ⟨hreported', -, hlinked'⟩ := order_reported hdev hnew hrun hu' hvalue'
    have hlink := hlinked _ (hreported rfl (decide_eq_true hpast))
    have hlink' := hlinked' _ (hreported' rfl (decide_eq_true hpast'))
    have hsame : env.linkOf .internal (RedemptionOrder.redemptionTxId value) =
        env.linkOf .internal (RedemptionOrder.redemptionTxId value') := congrArg _ htx
    cases hlink.symm.trans (hsame.trans hlink')
    rfl

/-- In every run of the app outside the development test, each order in `SUCCESS` has its own
successful outgoing transaction: one that was created for it, or its placeholder, and no other
order's. -/
theorem success_counts_once (env : AppEnv) (hdev : ∀ type, (env.orderEnv type).devTest = false)
    (hnew : env.system.Meets (Program.Allows (Inserts NewRow)) ⟨{}, []⟩ ls)
    (hrun : env.system.run ⟨{}, []⟩ ls = some c) :
    ∃ paidBy : OrderId → JsString, (∀ x u, c.store.getOrder x = some u → ∀ value ∈ u.values,
        OrderEntity.state value = x.type.transfers.success →
          ⟨x.type.transfers.outgoing, true, paidBy x⟩ ∈ u.reports ∧
            (paidBy x = x.id ∨ paidBy x ∈ u.created)) ∧
      ∀ x y u v, c.store.getOrder x = some u → c.store.getOrder y = some v → x.type = y.type →
        (∃ value ∈ u.values, OrderEntity.state value = x.type.transfers.success) →
        (∃ value ∈ v.values, OrderEntity.state value = y.type.transfers.success) →
          paidBy x = paidBy y → x = y := by
  have hpaid : ∀ x : OrderId, ∃ txId, ∀ u, c.store.getOrder x = some u →
      (∃ value ∈ u.values, OrderEntity.state value = x.type.transfers.success) →
        ⟨x.type.transfers.outgoing, true, txId⟩ ∈ u.reports ∧ (txId = x.id ∨ txId ∈ u.created) ∧
          env.linkOf x.type.transfers.outgoing txId = some x := by
    intro x
    by_cases hx : ∃ u, c.store.getOrder x = some u ∧
        ∃ value ∈ u.values, OrderEntity.state value = x.type.transfers.success
    · obtain ⟨u, hu, value, hvalue, hsuccess⟩ := hx
      obtain ⟨-, houtgoing, hlinked⟩ := order_reported hdev hnew hrun hu hvalue
      obtain ⟨txId, hreport, hid⟩ := houtgoing hsuccess
      refine ⟨txId, fun u' hu' _ => ?_⟩
      cases hu.symm.trans hu'
      exact ⟨hreport, hid, hlinked _ hreport⟩
    · exact ⟨[], fun u hu hsuccess => absurd ⟨u, hu, hsuccess⟩ hx⟩
  choose paidBy hpaidBy using hpaid
  refine ⟨paidBy, fun x u hu value hvalue hsuccess => ?_, fun x y u v hu hv htype hx hy hsame => ?_⟩
  · obtain ⟨hreport, hid, -⟩ := hpaidBy x u hu ⟨value, hvalue, hsuccess⟩
    exact ⟨hreport, hid⟩
  · obtain ⟨-, -, hlink⟩ := hpaidBy x u hu hx
    obtain ⟨-, -, hlink'⟩ := hpaidBy y v hv hy
    rw [hsame, htype] at hlink
    exact Option.some.inj (hlink.symm.trans hlink')

namespace Sample

open Program

/-- The recharge that the deposit is linked to, another one that names it, and a redemption. -/
def owner : OrderId := ⟨.RECHARGE, js "order"⟩

def twin : OrderId := ⟨.RECHARGE, js "twin"⟩

def burner : OrderId := ⟨.REDEMPTION, js "order"⟩

def appEnv : AppEnv where
  orderEnv _ := orderEnv
  linkOf
    | .external, txId => if txId = js "deposit" then some owner else none
    | .internal, txId =>
      if txId = js "mint" then some owner else if txId = js "burn" then some burner else none

def twinOrder : RechargeOrder :=
  { rechargeOrder .ISSUE with entityId := js "twin", rechargeTxId := js "twin" }

abbrev AppSteps := List (Label AppEvt OrderChoice)

/-- An event and the answers to the next calls of the first function. -/
def andThen (e : AppEvt) (n : Nat) : AppSteps := .event e :: awaits 0 .done n

/-- All three orders wait for their incoming transfer. -/
def appSetUp : AppSteps :=
  [.event (.insert owner (rechargeOrder .ISSUE)), .event (.insert twin twinOrder),
    .event (.insert burner redemptionOrder)] ++
  andThen (.order owner .setOrderPending) 3 ++ andThen (.order twin .setOrderPending) 3 ++
  andThen (.order burner .setOrderPending) 2

/-- The deposit is confirmed, and the burn, at the same time. -/
def appConfirm : AppSteps :=
  .event (.onChain ⟨.external, true, js "deposit"⟩) ::
  .event (.onChain ⟨.internal, true, js "burn"⟩) :: (awaits 1 .done 4 ++ awaits 0 .done 2)

/-- The mint is announced, also by the manager, and then created and confirmed. -/
def appMint : AppSteps :=
  .event .queueInited :: andThen (.order owner (.queueWaited 0)) 1 ++
  andThen (.mqReConnect .RECHARGE 3) 1 ++ andThen (.order owner (.deliver .TO_TX_START false)) 1 ++
  [.event (.saveConfig config),
    .event (.setRWKeypair (js "RECHARGEV2_ACCOUNT_BIWMETA_USDT") (js "secret"))] ++
  andThen (.order owner (.deliver (.TRY_TRANSFER (some .RECHARGEV2_ACCOUNT)) false)) 1 ++
  awaits 0 (.text (js "mint")) 1 ++ awaits 0 .done 2 ++
  andThen (.onChain ⟨.internal, true, js "mint"⟩) 4

/-- The deposit takes only the recharge further that it is linked to. -/
def appRun : AppSteps := appSetUp ++ appConfirm ++ appMint

def appTest (c : Pool AppStore (FamilyAns AppOp.Ans OrderId.Ans) Err OrderProcess) : Bool :=
  (c.store.getOrder owner).any (fun u => RechargeOrder.state u.row = .SUCCESS) &&
    (c.store.getOrder twin).any (fun u => RechargeOrder.state u.row = .EXTERNAL_WAIT_ON_CHAIN) &&
    (c.store.getOrder burner).any fun u => RedemptionOrder.state u.row = .EXTERNAL_WAIT_ON_CHAIN

theorem exists_appRun : ∃ c, appEnv.system.run ⟨{}, []⟩ appRun = some c ∧ appTest c = true :=
  System.exists_run _ _ _ _ (by decide +kernel)

theorem appRun_insertsNew :
    appEnv.system.Meets (Program.Allows (Inserts NewRow)) ⟨{}, []⟩ appRun := by
  have hrows : appRun.filterMap insertOf =
      [⟨owner, rechargeOrder .ISSUE⟩, ⟨twin, twinOrder⟩, ⟨burner, redemptionOrder⟩] := rfl
  refine meets_insertsNew (fun row hrow => ?_) _
  rw [hrows] at hrow
  rcases List.mem_cons.1 hrow with rfl | hrow
  · exact (⟨rfl, rfl⟩ : (rechargeOrder .ISSUE).New)
  rcases List.mem_cons.1 hrow with rfl | hrow
  · exact (⟨rfl, rfl⟩ : twinOrder.New)
  · cases List.mem_singleton.1 hrow
    exact (⟨rfl, rfl⟩ : redemptionOrder.New)

end Sample

/-- The recharge whose deposit it is has succeeded; it has run alone. -/
theorem orders_run_alone_sample : ∃ c, Sample.appEnv.system.run ⟨{}, []⟩ Sample.appRun = some c ∧
    Sample.appTest c = true ∧ ((c.store.getOrder Sample.owner = none ∧
        ∀ T ∈ c.tasks, callOf Sample.owner T.op = none) ∨
      ∃ u ls' d, Inserted NewRow Sample.owner u ∧
        (Sample.appEnv.program Sample.owner).system.run ⟨u, []⟩ ls' = some d ∧
        (Sample.appEnv.program Sample.owner).system.Meets
          (Program.Allows (Sample.appEnv.Linked Sample.owner)) ⟨u, []⟩ ls' ∧
        c.store.getOrder Sample.owner = some d.store ∧
        (c.tasks.filterMap fun T => callOf Sample.owner T.op).Perm (d.tasks.map (·.op))) := by
  obtain ⟨c, hrun, htest⟩ := Sample.exists_appRun
  exact ⟨c, hrun, htest, orders_run_alone _ Sample.appRun_insertsNew hrun _⟩

/-- The other recharge has not got past the deposit that both name. -/
theorem incoming_counts_once_sample :
    ∃ c, Sample.appEnv.system.run ⟨{}, []⟩ Sample.appRun = some c ∧ Sample.appTest c = true ∧
      (∀ id id' u u', c.store.getOrder ⟨.RECHARGE, id⟩ = some u →
        c.store.getOrder ⟨.RECHARGE, id'⟩ = some u' → ∀ value ∈ u.values, ∀ value' ∈ u'.values,
          RechargeOrder.Deposited value → RechargeOrder.Deposited value' →
            RechargeOrder.walletTxId value = RechargeOrder.walletTxId value' → id = id') ∧
      ∀ id id' u u', c.store.getOrder ⟨.REDEMPTION, id⟩ = some u →
        c.store.getOrder ⟨.REDEMPTION, id'⟩ = some u' → ∀ value ∈ u.values, ∀ value' ∈ u'.values,
          RedemptionOrder.Burned value → RedemptionOrder.Burned value' →
            RedemptionOrder.redemptionTxId value = RedemptionOrder.redemptionTxId value' →
              id = id' := by
  obtain ⟨c, hrun, htest⟩ := Sample.exists_appRun
  exact ⟨c, hrun, htest, incoming_counts_once _ (fun _ => rfl) Sample.appRun_insertsNew hrun⟩

theorem success_counts_once_sample :
    ∃ c, Sample.appEnv.system.run ⟨{}, []⟩ Sample.appRun = some c ∧ Sample.appTest c = true ∧
      ∃ paidBy : OrderId → JsString, (∀ x u, c.store.getOrder x = some u → ∀ value ∈ u.values,
          OrderEntity.state value = x.type.transfers.success →
            ⟨x.type.transfers.outgoing, true, paidBy x⟩ ∈ u.reports ∧
              (paidBy x = x.id ∨ paidBy x ∈ u.created)) ∧
        ∀ x y u v, c.store.getOrder x = some u → c.store.getOrder y = some v → x.type = y.type →
          (∃ value ∈ u.values, OrderEntity.state value = x.type.transfers.success) →
          (∃ value ∈ v.values, OrderEntity.state value = y.type.transfers.success) →
            paidBy x = paidBy y → x = y := by
  obtain ⟨c, hrun, htest⟩ := Sample.exists_appRun
  exact ⟨c, hrun, htest, success_counts_once _ (fun _ => rfl) Sample.appRun_insertsNew hrun⟩

end CotServer
