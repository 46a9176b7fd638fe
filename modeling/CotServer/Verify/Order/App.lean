import CotServer.Model.Sample
import CotServer.Verify.Order.Confirmed
import CotServer.Verify.Recharge.Moves
import CotServer.Verify.Redemption.Moves
import CotServer.Verify.Order.Frame

/-!
# The orders of the order app

The app does to each of its orders what the program of that order can do: a run of the app with all
of its orders is, for each of them, a run of `OrderMgr.program`. What holds for the runs of one order
so holds for every order of the app, whatever the others do.
-/

namespace CotServer

open Async OrderApp

variable {env : AppEnv} {x y : OrderId} {Rows : (x : OrderId) → x.type.Entity → Prop}
  {Reports : Report → Prop}

/-- The program of one order of the app. -/
abbrev AppEnv.program (env : AppEnv) (x : OrderId) :
    Program x.Store x.Ans Err OrderEvt OrderChoice OrderProcess :=
  (mgr env x.type).program (env.orderEnv x.type)

/-- The wallet only reports to the order what is linked to it. -/
def AppEnv.Linked (env : AppEnv) (x : OrderId) :
    x.Store → Action x.Ans Err OrderEvt OrderChoice → Prop
  | _, .event (.onChain report) => env.linkOf report.side report.txId = some x
  | _, _ => True

/-- The wallet only reports to the order what is linked to it, and as `Reports` says. -/
def AppEnv.Hears (env : AppEnv) (Reports : Report → Prop) (x : OrderId) :
    x.Store → Action x.Ans Err OrderEvt OrderChoice → Prop
  | _, .event (.onChain report) => env.linkOf report.side report.txId = some x ∧ Reports report
  | _, _ => True

/-- A row as a service creates it. -/
def NewRow : (x : OrderId) → x.type.Entity → Prop
  | ⟨.RECHARGE, _⟩ => RechargeOrder.New
  | ⟨.REDEMPTION, _⟩ => RedemptionOrder.New

/-- Rows are inserted as `Rows` says. -/
def Inserts (Rows : (x : OrderId) → x.type.Entity → Prop) :
    AppStore → Action (FamilyAns AppOp.Ans OrderId.Ans) Err AppEvt OrderChoice → Prop
  | _, .event (.insert x row) => Rows x row
  | _, _ => True

/-- Rows are inserted as `Rows` says, and the wallet reports as `Reports` says. -/
def Brings (Rows : (x : OrderId) → x.type.Entity → Prop) (Reports : Report → Prop) :
    AppStore → Action (FamilyAns AppOp.Ans OrderId.Ans) Err AppEvt OrderChoice → Prop
  | _, .event (.insert x row) => Rows x row
  | _, .event (.onChain report) => Reports report
  | _, _ => True

theorem linked_iff {u : x.Store} {a : Action x.Ans Err OrderEvt OrderChoice} :
    env.Linked x u a ↔ env.Hears (fun _ => True) x u a := by
  cases a with
  | event e => cases e <;> simp [AppEnv.Linked, AppEnv.Hears]
  | _ => rfl

theorem inserts_iff {s : AppStore}
    {a : Action (FamilyAns AppOp.Ans OrderId.Ans) Err AppEvt OrderChoice} :
    Inserts Rows s a ↔ Brings Rows (fun _ => True) s a := by
  cases a with
  | event e => cases e <;> rfl
  | _ => rfl

/-- An order that has just been inserted. -/
def Inserted (Rows : (x : OrderId) → x.type.Entity → Prop) (x : OrderId) (u : x.Store) : Prop :=
  ∃ m row, u = ({ row } : x.Store).withMemory m ∧ OrderEntity.entityId row = x.id ∧ Rows x row

/-! ## The order as a component -/

theorem getOrder_eq_some {s : AppStore} {u : x.Store} :
    (AppStore.order x).get s = some u ↔ ∃ t, s.orders x = some t ∧ t.withMemory s.memory = u :=
  Option.map_eq_some_iff

theorem framed_mgr (x : OrderId) : (mgr env x.type).Framed := by
  obtain ⟨_ | _, id⟩ := x
  · exact RechargeOrder.framed_rechargeOrderMgr
  · exact RedemptionOrder.framed_redemptionOrderMgr

/-- Another order is written to, with the same memory. -/
theorem getOrder_setOrder_ne {s : AppStore} {u u' : y.Store} (hxy : y ≠ x)
    (hget : (AppStore.order y).get s = some u) (hmemory : u'.memory = u.memory) :
    (AppStore.order x).get ((AppStore.order y).set u' s) = (AppStore.order x).get s := by
  obtain ⟨t, ht, rfl⟩ := getOrder_eq_some.1 hget
  have hmemory : u'.memory = s.memory := hmemory
  change AppStore.getOrder x (AppStore.setOrder y u' s) = AppStore.getOrder x s
  simp [AppStore.setOrder, AppStore.getOrder, ht, Function.update_of_ne hxy.symm, hmemory]

/-- What the app throws on an order that it does not have. -/
abbrev noOrder : Err := .error (js "no such order")

abbrev AppAside (env : AppEnv) (Reports : Report → Prop) (x : OrderId) (process : OrderProcess) :
    AppAsync Unit → AppStore → Prop :=
  Aside x (AppStore.order x) noOrder (env.program x) (env.Hears Reports x) process

/-- A function of one order, and what comes after it. -/
theorem inOrder_followedBy (x : OrderId) (p : @Async x.Store x.Op x.Ans Err Unit) :
    inOrder x p = ((p.via (i := x) (AppStore.order x) noOrder).followedBy settle) :=
  (followedBy_settle _).symm

theorem aside_settle {process : OrderProcess} (r : Except Err Unit) (s : AppStore) :
    AppAside env Reports x process (settle r) s := by
  cases r with
  | ok a => exact .ret
  | error e => exact .fail

instance : Nonempty y.Store := by
  obtain ⟨_ | _, id⟩ := y
  · exact ⟨{ row := Sample.rechargeOrder .ISSUE }⟩
  · exact ⟨{ row := Sample.redemptionOrder }⟩

/-- The functions of the other orders. -/
theorem aside_other {process : OrderProcess} {p : @Async y.Store y.Op y.Ans Err Unit}
    {k : Except Err Unit → AppAsync Unit} (hxy : y ≠ x) (hp : Frames p)
    (hk : ∀ r s, AppAside env Reports x process (k r) s) (s : AppStore) :
    AppAside env Reports x process
      ((p.via (i := y) (AppStore.order y) noOrder).followedBy k) s := by
  obtain ⟨u, hu⟩ : ∃ u, ∀ u', (AppStore.order y).get s = some u' → u' = u := by
    cases hget : (AppStore.order y).get s with
    | none => exact ⟨Classical.arbitrary _, nofun⟩
    | some u => exact ⟨u, fun u' h => (Option.some.inj h).symm⟩
  exact aside_via hxy (fun hget hmemory => getOrder_setOrder_ne hxy hget hmemory) hu (hp u) hk

/-! ## What the app starts -/

theorem hears_answer {c : Pool x.Store x.Ans Err OrderProcess} {n : Nat} {o : OrderChoice} :
    Program.Allows (env.Hears Reports x) c (.answer n o) := by
  intro a ha
  obtain ⟨t, -, rfl⟩ := Option.map_eq_some_iff.1 ha
  trivial

theorem hears_resume {c : Pool x.Store x.Ans Err OrderProcess} {n : Nat} :
    Program.Allows (env.Hears Reports x) c (.resume n : Label OrderEvt OrderChoice) := by
  intro a ha
  obtain ⟨t, -, ha⟩ := Option.bind_eq_some_iff.1 ha
  obtain ⟨r, -, rfl⟩ := Option.map_eq_some_iff.1 ha
  trivial

/-- A report is handed to its order. -/
theorem starts_report {report : Report} (hlink : env.linkOf report.side report.txId = some x)
    (hreport : Reports report) (u : x.Store) :
    Starts x (env.program x) (env.Hears Reports x) .order u (do
      Async.update fun s => { s with reports := report :: s.reports }
      (mgr env x.type).dispatch fun state ref =>
        state.onChainCallback report.side report.success ref report.txId) := by
  intro ts
  refine ⟨[.event (.onChain report), .answer ts.length .done] ++ [.resume ts.length],
    System.run_append OrderKind.run_reported ?_, ?_, fun _ _ => ⟨hears_answer, fun _ _ =>
      ⟨hears_resume, fun _ _ => trivial⟩⟩⟩
  · rw [System.run_cons, step_resume List.getElem?_concat_length rfl, replace_concat_length]
    rfl
  · intro a ha
    cases ha
    exact ⟨hlink, hreport⟩

theorem starts_processMqReConnect (u : x.Store) :
    Starts x (env.program x) (env.Hears Reports x) .order u (mgr env x.type).processMqReConnect := by
  intro ts
  refine ⟨[.event .mqReConnect], ?_, fun a ha => ?_, fun _ _ => trivial⟩
  · simp [System.run_cons, Program.system, Program.step, AppEnv.program, OrderMgr.program,
      OrderMgr.event]
  · cases ha
    trivial

theorem aside_onChainCallback {report : Report}
    (hlink : env.linkOf report.side report.txId = some y) (hreport : Reports report)
    (s : AppStore) : AppAside env Reports x .order (onChainCallback env y report) s := by
  refine .read ?_
  change AppAside env Reports x .order (if (s.orders y).isSome then _ else _) s
  split
  · next hsome =>
    rw [inOrder_followedBy]
    by_cases hxy : y = x
    · subst hxy
      obtain ⟨u, hu⟩ := Option.isSome_iff_exists.1 hsome
      exact .start (getOrder_eq_some.2 ⟨u, hu, rfl⟩) (starts_report hlink hreport _) aside_settle
    · have hframes : Frames (do
          Async.update fun s => { s with reports := report :: s.reports }
          (mgr env y.type).dispatch fun state ref =>
            state.onChainCallback report.side report.success ref report.txId) :=
        Frames.bind (.update fun _ => rfl) fun _ => OrderMgr.frames_dispatch fun st ref =>
          ((framed_mgr y).states st).onChainCallback report.side report.success ref report.txId
      exact aside_other hxy hframes aside_settle s
  · exact .ret

theorem aside_processOnChain {report : Report} (hreport : Reports report) (s : AppStore) :
    AppAside env Reports x .order (processOnChain env report) s := by
  rw [processOnChain, call_bind]
  refine .await (fun _ => Sum.inl_ne_inr) fun r s => ?_
  cases r with
  | error e => exact .fail
  | ok _ =>
    rw [ok_bind]
    split
    · exact .ret
    · next y hlink => exact aside_onChainCallback hlink hreport s

/-- The loop comes to the order, or to another one. -/
theorem aside_reconnect {k : Except Err Unit → AppAsync Unit}
    (hk : ∀ r s, AppAside env Reports x .order (k r) s) (s : AppStore) :
    AppAside env Reports x .order
      ((inOrder y (mgr env y.type).processMqReConnect).followedBy k) s := by
  by_cases hxy : y = x
  · subst hxy
    cases hget : (AppStore.order y).get s with
    | some u => exact .start hget (starts_processMqReConnect u) hk
    | none => exact aside_missing hget (hk _ s)
  · exact aside_other hxy OrderMgr.frames_processMqReConnect hk s

theorem aside_processMqReConnect (type : ORDER_TYPE) (places place : Nat) (s : AppStore) :
    AppAside env Reports x .order (processMqReConnect env type places place) s := by
  induction places generalizing place s with
  | zero => exact .ret
  | succ places ih =>
    rw [processMqReConnect, store_bind]
    refine .read ?_
    split
    · exact .ret
    · exact ih (place + 1) s
    · next orderId _ =>
      rw [bind_eq_followedBy]
      refine aside_reconnect (fun r s => ?_) s
      cases r with
      | ok _ => exact ih (place + 1) s
      | error e => exact .fail

/-! ## Steps of the app -/

/-- What an event of the app is to one of its orders. -/
abbrev AppEvent (env : AppEnv) (Reports : Report → Prop) (x : OrderId)
    (kills : OrderProcess → Bool) (u : x.Store) (s : AppStore) :
    Option (OrderProcess × AppAsync Unit) → Prop :=
  HostedEvent x (AppStore.order x) noOrder (env.program x) (env.Hears Reports x) kills u s

theorem hears_event {e : OrderEvt} {u : x.Store} (he : ∀ report, e ≠ .onChain report) :
    env.Hears Reports x u (.event e) := by
  cases e with
  | onChain report => exact absurd rfl (he report)
  | _ => trivial

/-- What happens to all orders happens to each. -/
theorem hosted_toAll {e : OrderEvt} {kills : OrderProcess → Bool} {s : AppStore} {u t t₀ : x.Store}
    (he : ∀ report, e ≠ .onChain report)
    (hkills : ∀ process, kills process = (env.program x).kills e process)
    (horder : s.orders x = some t₀) (ht : t₀.withMemory s.memory = t)
    (hevent : (mgr env x.type).event e u = some (t, none)) :
    AppEvent env Reports x kills u s none :=
  .event (hears_event he) hkills (getOrder_eq_some.2 ⟨t₀, horder, ht⟩) hevent

/-- An event of the order itself. -/
theorem hosted_own {e : OrderEvt} {s : AppStore} {u t : x.Store} {next}
    (hget : (AppStore.order x).get s = some u) (hown : e.own = true)
    (hevent : (mgr env x.type).event e u = some (t, next)) :
    AppEvent env Reports x (fun _ => false) u ((AppStore.order x).set t s)
      (next.map fun (process, p) => (process, inOrder x p)) := by
  have hreport : ∀ report, e ≠ .onChain report := by
    rintro report rfl
    cases hown
  have hkills : ∀ process, false = (env.program x).kills e process := by
    intro process
    cases e with
    | restart => cases hown
    | _ => rfl
  cases next with
  | none => exact .event (hears_event hreport) hkills ((AppStore.order x).get_set hget) hevent
  | some next =>
    obtain ⟨process, p⟩ := next
    change AppEvent env Reports x _ u _ (some (process, inOrder x p))
    rw [inOrder_followedBy]
    exact .start (hears_event hreport) hkills ((AppStore.order x).get_set hget) hevent
      aside_settle

theorem withMemory_setRWKeypair {E : Type} (t : OrderStore E) (m : OrderMemory)
    (accountType secret : JsString) : t.withMemory (m.setRWKeypair accountType secret) =
      (t.withMemory m).setRWKeypair accountType secret := by
  unfold OrderMemory.setRWKeypair OrderStore.setRWKeypair
  change _ = if (m.rwkeypairMap accountType).isSome then _ else _
  split <;> rfl

theorem withMemory_setExternalKeypair {E : Type} (t : OrderStore E) (m : OrderMemory)
    (chainName : ExternalChainName) (assetType : JsString) (account : WalletAccount) :
    t.withMemory (m.setExternalKeypair chainName assetType account) =
      (t.withMemory m).setExternalKeypair chainName assetType account := by
  unfold OrderMemory.setExternalKeypair OrderStore.setExternalKeypair
  change _ = if (m.externalkeypairMap chainName assetType).isSome then _ else _
  dsimp only
  split <;> rfl

theorem hosts_event {e : AppEvt} {s s' : AppStore} {next} {u : x.Store}
    (hev : OrderApp.event env e s = some (s', next)) (hall : Brings Rows Reports s (.event e))
    (hget : (AppStore.order x).get s = some u) :
    AppEvent env Reports x ((OrderApp.program env).kills e) u s' next := by
  obtain ⟨t₀, ht₀, rfl⟩ := getOrder_eq_some.1 hget
  cases e with
  | insert y row =>
    simp only [OrderApp.event] at hev
    split at hev <;> cases hev
    next hnew =>
    have hxy : x ≠ y := by
      rintro rfl
      cases hnew.1.symm.trans ht₀
    refine .aside (fun _ => rfl) (getOrder_eq_some.2 ⟨t₀, ?_, rfl⟩) nofun
    exact (Function.update_of_ne hxy _ _).trans ht₀
  | order y e =>
    simp only [OrderApp.event] at hev
    split at hev
    · next hown =>
      obtain ⟨u, hu, hev⟩ := Option.bind_eq_some_iff.1 hev
      obtain ⟨⟨t, next'⟩, hstep, hev⟩ := Option.bind_eq_some_iff.1 hev
      cases hev
      by_cases hxy : y = x
      · subst hxy
        cases hu.symm.trans hget
        exact hosted_own hget hown hstep
      · have hmemory := OrderMgr.memory_event hown hstep
        refine .aside (fun _ => rfl) ((getOrder_setOrder_ne hxy hu hmemory).trans hget) ?_
        rintro process p hp
        obtain ⟨⟨_, q⟩, rfl, hq⟩ := Option.map_eq_some_iff.1 hp
        cases hq
        rw [inOrder_followedBy]
        exact aside_other hxy ((framed_mgr y).start hown hstep) aside_settle _
    · cases hev
  | restart =>
    cases hev
    exact hosted_toAll (e := .restart) nofun (fun process => by cases process <;> rfl)
      (Option.map_eq_some_iff.2 ⟨t₀, ht₀, rfl⟩) rfl rfl
  | clock ms =>
    cases hev
    exact hosted_toAll (e := .clock ms) nofun (fun _ => rfl) ht₀ rfl rfl
  | onChain report =>
    cases hev
    refine .aside (fun _ => rfl) hget ?_
    rintro _ _ ⟨⟩
    exact aside_processOnChain hall s
  | mqReConnect type places =>
    cases hev
    refine .aside (fun _ => rfl) hget ?_
    rintro _ _ ⟨⟩
    exact aside_processMqReConnect type places 0 s
  | queueInited =>
    cases hev
    exact hosted_toAll (e := .queueInited) nofun (fun _ => rfl) ht₀ rfl rfl
  | setRWKeypair accountType secret =>
    cases hev
    exact hosted_toAll (e := .setRWKeypair accountType secret) nofun (fun _ => rfl) ht₀
      (withMemory_setRWKeypair ..) rfl
  | setExternalKeypair chainName assetType account =>
    cases hev
    exact hosted_toAll (e := .setExternalKeypair chainName assetType account) nofun (fun _ => rfl)
      ht₀ (withMemory_setExternalKeypair ..) rfl
  | saveConfig config =>
    cases hev
    exact hosted_toAll (e := .saveConfig config) nofun (fun _ => rfl) ht₀ rfl rfl

theorem hosts_answer {op : x.Op} {o : OrderChoice} {s s' : AppStore} {u : x.Store}
    {r : Except Err (x.Ans op)} (hans : OrderApp.answer env (.inr ⟨x, op⟩) o s = some (r, s'))
    (hget : (AppStore.order x).get s = some u) :
    ∃ t, op.answer (env.orderEnv x.type) o u = some (r, t) ∧ s' = (AppStore.order x).set t s := by
  obtain ⟨u', hu', hans⟩ := Option.bind_eq_some_iff.1 hans
  cases hu'.symm.trans hget
  obtain ⟨⟨r', t⟩, hstep, hans⟩ := Option.bind_eq_some_iff.1 hans
  cases hans
  exact ⟨t, hstep, rfl⟩

/-- The answers to the other orders and to the app. -/
theorem hosts_other {op : AppOp ⊕ (Σ y : OrderId, y.Op)} {o : OrderChoice} {s s' : AppStore} {r}
    (hop : ∀ o, op ≠ .inr ⟨x, o⟩) (hans : OrderApp.answer env op o s = some (r, s')) :
    (AppStore.order x).get s' = (AppStore.order x).get s := by
  cases op with
  | inl op =>
    obtain ⟨side, txId⟩ := op
    cases o <;> cases hans <;> rfl
  | inr op =>
    obtain ⟨y, op⟩ := op
    have hxy : y ≠ x := by
      rintro rfl
      exact hop op rfl
    cases hget : (AppStore.order y).get s with
    | none =>
      obtain ⟨u, hu, -⟩ := Option.bind_eq_some_iff.1 hans
      cases hget.symm.trans hu
    | some u =>
      obtain ⟨t, hstep, rfl⟩ := hosts_answer hans hget
      exact getOrder_setOrder_ne hxy hget (OrderOp.memory_answer hstep)

theorem hosts_absent {e : AppEvt} {s s' : AppStore} {next}
    (hev : OrderApp.event env e s = some (s', next)) (hall : Brings Rows Reports s (.event e))
    (hget : (AppStore.order x).get s = none) :
    (AppStore.order x).get s' = none ∧
        (∀ process p, next = some (process, p) → AppAside env Reports x process p s') ∨
      next = none ∧ ∃ u, (AppStore.order x).get s' = some u ∧ Inserted Rows x u := by
  have hnone : s.orders x = none := Option.map_eq_none_iff.1 hget
  have hstays : ∀ {s'}, s'.orders x = none → (AppStore.order x).get s' = none :=
    fun h => Option.map_eq_none_iff.2 h
  cases e with
  | insert y row =>
    simp only [OrderApp.event] at hev
    split at hev <;> cases hev
    next hrow =>
    by_cases hxy : x = y
    · subst hxy
      exact .inr ⟨rfl, _, getOrder_eq_some.2 ⟨{ row }, Function.update_self .., rfl⟩,
        s.memory, row, rfl, hrow.2, hall⟩
    · exact .inl ⟨hstays ((Function.update_of_ne hxy _ _).trans hnone), nofun⟩
  | order y e =>
    simp only [OrderApp.event] at hev
    split at hev
    · next hown =>
      obtain ⟨u, hu, hev⟩ := Option.bind_eq_some_iff.1 hev
      obtain ⟨⟨t, next'⟩, hstep, hev⟩ := Option.bind_eq_some_iff.1 hev
      cases hev
      have hxy : y ≠ x := by
        rintro rfl
        cases hget.symm.trans hu
      have hmemory := OrderMgr.memory_event hown hstep
      refine .inl ⟨(getOrder_setOrder_ne hxy hu hmemory).trans hget, fun process p hp => ?_⟩
      obtain ⟨⟨_, q⟩, rfl, hq⟩ := Option.map_eq_some_iff.1 hp
      cases hq
      rw [inOrder_followedBy]
      exact aside_other hxy ((framed_mgr y).start hown hstep) aside_settle _
    · cases hev
  | restart =>
    cases hev
    exact .inl ⟨hstays (Option.map_eq_none_iff.2 hnone), nofun⟩
  | onChain report =>
    cases hev
    refine .inl ⟨hget, ?_⟩
    rintro _ _ ⟨⟩
    exact aside_processOnChain hall s
  | mqReConnect type places =>
    cases hev
    refine .inl ⟨hget, ?_⟩
    rintro _ _ ⟨⟩
    exact aside_processMqReConnect type places 0 s
  | _ =>
    cases hev
    exact .inl ⟨hstays hnone, nofun⟩

/-- The app does to an order what the program of the order can do. -/
theorem hosts (env : AppEnv) (x : OrderId) : Hosts x (AppStore.order x) noOrder (env.program x)
    (env.Hears Reports x) (OrderApp.program env) (Brings Rows Reports) (Inserted Rows x) where
  event hev hall hget := hosts_event hev hall hget
  absent hev hall hget := hosts_absent hev hall hget
  answer hans _ hget := by
    obtain ⟨t, hstep, rfl⟩ := hosts_answer hans hget
    exact ⟨_, t, hstep, trivial, (AppStore.order x).get_set hget⟩
  other hop hans _ := by
    have hsame := hosts_other hop hans
    exact ⟨fun h => hsame.trans h, fun u hu => ⟨u, .refl u, hsame.trans hu⟩⟩
  resume _ _ := trivial

/-! ## Reports -/

namespace OrderKind

variable {E S : Type} [OrderEntity E S] [DecidableEq S] {K : OrderKind E S} {env : OrderEnv}
  {mgr : OrderMgr E S}

/-- Nothing but the wallet puts reports on record. -/
theorem reports_invariant (P : Report → Prop) :
    (orderMoves K env).Invariant (mgr.program env)
      (fun _ _ a => ∀ report, a = .event (.onChain report) → P report) OrderEvt.start
      (fun s _ => ∀ report ∈ s.reports, P report) where
  drop h := h
  move _ h hmove := by
    cases hmove with
    | aux hst => exact hst.reports ▸ h
    | close => split <;> exact h
    | _ => exact h
  wait _ h _ := h
  answer _ h _ hans := by
    cases OrderOp.answer_cases hans with
    | aux hst => exact hst.reports ▸ h
    | _ => exact h
  resume _ h _ := h
  event := by
    intro s t e next S R _ h hall hev _
    have hreports : ∀ report ∈ t.reports, P report := by
      cases OrderMgr.event_cases hev with
      | aux hst => exact hst.reports ▸ h
      | deliver hst => exact hst.reports ▸ h
      | restart hst => exact hst.reports ▸ h
      | onChain report =>
        intro report' hmem
        rcases List.mem_cons.1 hmem with rfl | hmem
        · exact hall _ rfl
        · exact h report' hmem
      | _ => exact h
    split <;> exact hreports

theorem MgrSafe.reports (h : K.MgrSafe env mgr) {P : Report → Prop} {s : OrderStore E}
    {ls : List (Label OrderEvt OrderChoice)} {c : OrderPool E S} (hs : s.reports = [])
    (hrun : (mgr.program env).system.run ⟨s, []⟩ ls = some c)
    (hall : (mgr.program env).system.Meets (Program.Allows fun _ a =>
      ∀ report, a = .event (.onChain report) → P report) ⟨s, []⟩ ls) :
    ∀ report ∈ c.store.reports, P report := by
  have hidle : (orderMoves K env).Holds (fun s _ => ∀ report ∈ s.reports, P report)
      (⟨s, []⟩ : OrderPool E S) := Moves.Holds.idle fun report hmem => absurd (hs ▸ hmem) List.not_mem_nil
  obtain ⟨-, -, hreports⟩ := Moves.sound (reports_invariant P) h.starts hidle
    (hall.mono fun _ _ hl a ha report heq => hl a ha report heq) hrun
  exact hreports

end OrderKind

/-- The reports on an order are about transactions that are linked to it. -/
theorem reports_heard {u : x.Store} {ls : List (Label OrderEvt OrderChoice)}
    {d : Pool x.Store x.Ans Err OrderProcess} (hfresh : u.reports = [])
    (hrun : (env.program x).system.run ⟨u, []⟩ ls = some d)
    (hhears : (env.program x).system.Meets (Program.Allows (env.Hears Reports x)) ⟨u, []⟩ ls) :
    ∀ report ∈ d.store.reports,
      env.linkOf report.side report.txId = some x ∧ Reports report := by
  have hall : (env.program x).system.Meets (Program.Allows fun _ a =>
      ∀ report, a = .event (.onChain report) →
        env.linkOf report.side report.txId = some x ∧ Reports report) ⟨u, []⟩ ls := by
    refine hhears.mono fun c l hl a ha report heq => ?_
    subst heq
    exact hl _ ha
  obtain ⟨_ | _, id⟩ := x
  · exact RechargeOrder.kind_mgr.reports hfresh hrun hall
  · exact RedemptionOrder.kind_mgr.reports hfresh hrun hall

/-! ## Runs of the app -/

section Runs

variable {ls : List (Label AppEvt OrderChoice)}
  {c : Pool AppStore (FamilyAns AppOp.Ans OrderId.Ans) Err OrderProcess}

/-- An order of the app has run since it was inserted. -/
theorem order_run
    (hrows : (OrderApp.program env).system.Meets (Program.Allows (Brings Rows Reports)) ⟨{}, []⟩ ls)
    (hrun : (OrderApp.program env).system.run ⟨{}, []⟩ ls = some c) (x : OrderId) :
    Absent x (AppStore.order x) noOrder (env.program x) (env.Hears Reports x) c ∨
      ∃ u ls' d, Inserted Rows x u ∧ (env.program x).system.run ⟨u, []⟩ ls' = some d ∧
        (env.program x).system.Meets (Program.Allows (env.Hears Reports x)) ⟨u, []⟩ ls' ∧
        Tracks x (AppStore.order x) noOrder (env.program x) (env.Hears Reports x) c d :=
  absent_run (hosts env x) ⟨rfl, fun _ h => absurd h List.not_mem_nil⟩ hrows hrun

theorem meets_brings (h : ∀ x row, .event (.insert x row) ∈ ls → Rows x row)
    (hreports : ∀ report, .event (.onChain report) ∈ ls → Reports report)
    (c : Pool AppStore (FamilyAns AppOp.Ans OrderId.Ans) Err OrderProcess) :
    (OrderApp.program env).system.Meets (Program.Allows (Brings Rows Reports)) c ls := by
  have hevents : ∀ e, .event e ∈ ls → ∀ s, Brings Rows Reports s (.event e) := by
    intro e he s
    cases e with
    | insert x row => exact h x row he
    | onChain report => exact hreports report he
    | _ => trivial
  refine ((OrderApp.program env).meets_of_events hevents c).mono fun c l hl a ha => ?_
  cases a with
  | event e => exact hl _ ha e rfl c.store
  | _ => trivial

/-- An order stays. -/
theorem getOrder_run {ls' : List (Label AppEvt OrderChoice)}
    {c' : Pool AppStore (FamilyAns AppOp.Ans OrderId.Ans) Err OrderProcess}
    (hrun : (OrderApp.program env).system.run ⟨{}, []⟩ ls = some c)
    (hsome : c.store.getOrder x ≠ none)
    (hrun' : (OrderApp.program env).system.run c ls' = some c') : c'.store.getOrder x ≠ none := by
  have hall : (OrderApp.program env).system.Meets
      (Program.Allows (Brings (fun _ _ => True) fun _ => True)) ⟨{}, []⟩ ls :=
    meets_brings (fun _ _ _ => trivial) (fun _ _ => trivial) _
  rcases order_run hall hrun x with habsent | ⟨u, ls₀, d, -, -, -, htracks⟩
  · exact absurd habsent.store hsome
  · have hall' : (OrderApp.program env).system.Meets
        (Program.Allows (Brings (fun _ _ => True) fun _ => True)) c ls' :=
      meets_brings (fun _ _ _ => trivial) (fun _ _ => trivial) _
    obtain ⟨ls₁, d', -, -, htracks'⟩ := tracks_run (hosts env x) htracks hall' hrun'
    rw [show c'.store.getOrder x = some d'.store from htracks'.store]
    exact Option.some_ne_none _

end Runs

end CotServer
