import CotServer.Verify.App
import CotServer.Verify.Recharge.Terms
import CotServer.Verify.Redemption.Terms

/-!
# Transfers as they were ordered

In every run of the app, what the wallet is asked for in the name of an order is what its inserted
row says, under keys and a config that the app was given in this run.
-/

namespace CotServer

open Async Contract

variable {env : AppEnv} {x : OrderId} {ls : List (Label AppEvt OrderChoice)}
  {c : Pool AppStore (FamilyAns AppOp.Ans OrderId.Ans) Err OrderProcess}

/-- The terms of an order, by its kind. -/
def ORDER_TYPE.orderTerms (known : Settings) :
    (type : ORDER_TYPE) → type.Entity → OrderTerms type.Entity type.State
  | RECHARGE, order => RechargeOrder.orderTerms known order
  | REDEMPTION, order => RedemptionOrder.orderTerms known order

/-- The keys and configs of a run. The app begins with the empty config. -/
def settingsOf (ls : List (Label AppEvt OrderChoice)) : Settings where
  rwkeypair accountType secret := .event (.setRWKeypair accountType secret) ∈ ls
  externalkeypair chainName assetType account :=
    .event (.setExternalKeypair chainName assetType account) ∈ ls
  config config := config = [] ∨ .event (.saveConfig config) ∈ ls

/-! ## The terms of all orders as a contract of the app -/

section

variable {known : Settings} {first : (x : OrderId) → x.type.Entity}

theorem orderTerms_known (row : x.type.Entity) : (x.type.orderTerms known row).known = known := by
  obtain ⟨_ | _, id⟩ := x <;> rfl

theorem mgrKeeps_orderTerms (row : x.type.Entity) :
    (x.type.orderTerms known row).MgrKeeps (OrderApp.mgr env x.type) := by
  obtain ⟨_ | _, id⟩ := x
  · exact RechargeOrder.mgrKeeps
  · exact RedemptionOrder.mgrKeeps

theorem agrees_self (row : x.type.Entity) : (x.type.orderTerms known row).Agrees row := by
  obtain ⟨_ | _, id⟩ := x <;> rfl

variable (known first) in
def appContract : Contract AppStore (FamilyAns AppOp.Ans OrderId.Ans) where
  Inv s := known.Backs s.memory ∧ ∀ x u, s.orders x = some u → ∀ value ∈ u.values,
    (x.type.orderTerms known (first x)).Agrees value
  Asks
    | .inl _ => True
    | .inr ⟨x, op⟩ => (x.type.orderTerms known (first x)).Asked op
  Tells
    | .inl _, _ => True
    | .inr ⟨x, op⟩, a => (x.type.orderTerms known (first x)).contract.Tells op a

theorem within_appContract : Within x (AppStore.order x)
    (x.type.orderTerms known (first x)).contract (appContract known first) where
  get hs hget := by
    obtain ⟨u, hu, rfl⟩ := getOrder_eq_some.1 hget
    refine ⟨hs.2 x u hu, ?_⟩
    rw [orderTerms_known]
    exact hs.1
  set {s t u} hs hget hu := by
    obtain ⟨t, ht, rfl⟩ := getOrder_eq_some.1 hget
    have hmemory := hu.2
    rw [orderTerms_known] at hmemory
    change (appContract known first).Inv (AppStore.setOrder x u s)
    rw [AppStore.setOrder, ht, Option.isSome_some, if_pos rfl]
    refine ⟨hmemory, fun y v hv => ?_⟩
    by_cases hyx : y = x
    · subst hyx
      cases (Function.update_self ..).symm.trans hv
      exact hu.1
    · exact hs.2 y v ((Function.update_of_ne hyx _ _).symm.trans hv)
  asks h := h
  tells h := h

/-- A function of an order that is there. -/
theorem keeps_inOrder {p : @Async x.Store x.Op x.Ans Err Unit} {s : AppStore} {t : x.Store}
    (hs : (appContract known first).Inv s) (hget : (AppStore.order x).get s = some t)
    (hp : (x.type.orderTerms known (first x)).Upholds p) :
    (appContract known first).Keeps (OrderApp.inOrder x p) s := by
  have ht := within_appContract.get hs hget
  exact Holds.via within_appContract hs ht (fun u hu => Option.some.inj (hu.symm.trans hget))
    (hp t ht)

theorem keeps_onChainCallback {report : Report} {s : AppStore}
    (hs : (appContract known first).Inv s) :
    (appContract known first).Keeps (OrderApp.onChainCallback env x report) s := by
  refine holds_store ?_
  split
  · next hsome =>
    obtain ⟨u, hu⟩ := Option.isSome_iff_exists.1 hsome
    refine keeps_inOrder hs (getOrder_eq_some.2 ⟨u, hu, rfl⟩) ?_
    refine .bind (.update fun _ ht => OrderTerms.inv_same ht rfl rfl rfl) fun _ _ =>
      OrderTerms.keeps_dispatch ?_
    exact fun st ref => ((mgrKeeps_orderTerms _).states st).onChainCallback _ _ ref _
  · exact holds_pure trivial

theorem keeps_processOnChain {report : Report} {s : AppStore}
    (hs : (appContract known first).Inv s) :
    (appContract known first).Keeps (OrderApp.processOnChain env report) s := by
  refine Holds.bind (Q := fun _ => True) (holds_call trivial fun _ _ => trivial) hs
    fun _ t ht _ => ?_
  split
  · exact holds_pure trivial
  · exact keeps_onChainCallback ht

theorem keeps_mqReConnect {type : ORDER_TYPE} {places place : Nat} {s : AppStore}
    (hs : (appContract known first).Inv s) :
    (appContract known first).Keeps (OrderApp.processMqReConnect env type places place) s := by
  induction places generalizing place s with
  | zero => exact holds_pure trivial
  | succ places ih =>
    refine holds_store ?_
    split
    · exact holds_pure trivial
    · exact ih hs
    · next orderId _ =>
      refine Holds.bind (Q := fun _ => True) ?_ hs fun _ t ht _ => ih ht
      cases hget : (AppStore.order ⟨type, orderId⟩).get s with
      | some t => exact keeps_inOrder hs hget OrderTerms.keeps_processMqReConnect
      | none => exact Contract.holds_missing hget

/-- What an event of the app may bring. -/
def Permits (known : Settings) (Rows : (x : OrderId) → x.type.Entity → Prop)
    (Reports : Report → Prop) : AppEvt → Prop
  | .insert x row => Rows x row
  | .onChain report => Reports report
  | .setRWKeypair accountType secret => known.rwkeypair accountType secret
  | .setExternalKeypair chainName assetType account =>
    known.externalkeypair chainName assetType account
  | .saveConfig config => known.config config
  | _ => True

theorem backs_setRWKeypair {m : OrderMemory} {accountType secret : JsString} (h : known.Backs m)
    (hknown : known.rwkeypair accountType secret) :
    known.Backs (m.setRWKeypair accountType secret) := by
  unfold OrderMemory.setRWKeypair
  split
  · exact h
  · refine ⟨fun {accountType' secret'} hget => ?_, h.externalkeypair, h.config⟩
    by_cases heq : accountType' = accountType
    · subst heq
      cases (Function.update_self ..).symm.trans hget
      exact hknown
    · exact h.rwkeypair ((Function.update_of_ne heq _ _).symm.trans hget)

theorem backs_setExternalKeypair {m : OrderMemory} {chainName : ExternalChainName}
    {assetType : JsString} {account : WalletAccount} (h : known.Backs m)
    (hknown : known.externalkeypair chainName assetType account) :
    known.Backs (m.setExternalKeypair chainName assetType account) := by
  unfold OrderMemory.setExternalKeypair
  dsimp only
  split
  · exact h
  · refine ⟨h.rwkeypair, fun {chainName' assetType' account'} hget => ?_, h.config⟩
    by_cases hchain : chainName' = chainName
    · subst hchain
      have hget := (congrFun (Function.update_self ..) _).symm.trans hget
      by_cases hasset : assetType' = assetType
      · subst hasset
        cases (Function.update_self ..).symm.trans hget
        exact hknown
      · exact h.externalkeypair ((Function.update_of_ne hasset _ _).symm.trans hget)
    · exact h.externalkeypair
        ((congrFun (Function.update_of_ne hchain _ _) _).symm.trans hget)

theorem appContract_event {e : AppEvt} {s s' : AppStore} {next}
    (he : Permits known (fun x row => row = first x) (fun _ => True) e)
    (hs : (appContract known first).Inv s)
    (hev : OrderApp.event env e s = some (s', next)) : (appContract known first).Inv s' ∧
      ∀ process p, next = some (process, p) → (appContract known first).Keeps p s' := by
  cases e with
  | insert x row =>
    simp only [OrderApp.event] at hev
    split at hev <;> cases hev
    cases he
    refine ⟨⟨hs.1, fun y v hv => ?_⟩, fun _ _ h => by cases h⟩
    by_cases hyx : y = x
    · subst hyx
      cases (Function.update_self ..).symm.trans hv
      intro value hvalue
      cases List.mem_singleton.1 hvalue
      exact agrees_self _
    · exact hs.2 y v ((Function.update_of_ne hyx _ _).symm.trans hv)
  | order x e =>
    simp only [OrderApp.event] at hev
    split at hev
    · next hown =>
      obtain ⟨u, hu, hev⟩ := Option.bind_eq_some_iff.1 hev
      obtain ⟨⟨t, next'⟩, hstep, hev⟩ := Option.bind_eq_some_iff.1 hev
      cases hev
      obtain ⟨ht, hnext⟩ := (mgrKeeps_orderTerms (first x)).event hown
        (within_appContract.get hs hu) hstep
      have hs' := within_appContract.set hs hu ht
      refine ⟨hs', fun process p hp => ?_⟩
      obtain ⟨⟨_, q⟩, rfl, hq⟩ := Option.map_eq_some_iff.1 hp
      cases hq
      refine Contract.Holds.via within_appContract hs' ht (fun u' hu' => ?_) (hnext _ _ rfl)
      exact Option.some.inj (hu'.symm.trans ((AppStore.order x).get_set hu))
    · cases hev
  | restart =>
    cases hev
    refine ⟨⟨⟨fun h => (by cases h), fun h => (by cases h), hs.1.config⟩, fun x u hu => ?_⟩,
      fun _ _ h => by cases h⟩
    obtain ⟨u', hu', rfl⟩ := Option.map_eq_some_iff.1 hu
    exact hs.2 x u' hu'
  | onChain report =>
    cases hev
    refine ⟨hs, ?_⟩
    rintro _ _ ⟨⟩
    exact keeps_processOnChain hs
  | mqReConnect type places =>
    cases hev
    refine ⟨hs, ?_⟩
    rintro _ _ ⟨⟩
    exact keeps_mqReConnect hs
  | setRWKeypair accountType secret =>
    cases hev
    exact ⟨⟨backs_setRWKeypair hs.1 he, hs.2⟩, fun _ _ h => by cases h⟩
  | setExternalKeypair chainName assetType account =>
    cases hev
    exact ⟨⟨backs_setExternalKeypair hs.1 he, hs.2⟩, fun _ _ h => by cases h⟩
  | saveConfig config =>
    cases hev
    exact ⟨⟨⟨hs.1.rwkeypair, hs.1.externalkeypair, he⟩, hs.2⟩, fun _ _ h => by cases h⟩
  | _ =>
    cases hev
    exact ⟨⟨⟨hs.1.rwkeypair, hs.1.externalkeypair, hs.1.config⟩, hs.2⟩, fun _ _ h => by cases h⟩

/-- The app keeps the terms of its orders. -/
theorem kept_appContract :
    (appContract known first).Kept (OrderApp.program env)
      (Permits known (fun x row => row = first x) fun _ => True) where
  answer {op o s r t} hop hs hans := by
    cases op with
    | inl op =>
      obtain ⟨side, txId⟩ := op
      cases o <;> cases hans <;> exact ⟨hs, fun _ _ => trivial⟩
    | inr op =>
      obtain ⟨x, op⟩ := op
      obtain ⟨u, hu, hans⟩ := Option.bind_eq_some_iff.1 hans
      obtain ⟨⟨r', u'⟩, hstep, hans⟩ := Option.bind_eq_some_iff.1 hans
      cases hans
      obtain ⟨hu', htells⟩ := OrderTerms.answer hop (within_appContract.get hs hu) hstep
      exact ⟨within_appContract.set hs hu hu', htells⟩
  event he hs hev := appContract_event he hs hev

end

/-! ## The first row of an order -/

theorem insert_cases {c c' : Pool AppStore (FamilyAns AppOp.Ans OrderId.Ans) Err OrderProcess}
    {row : x.type.Entity} (hstep : env.system.step c (.event (.insert x row)) = some c') :
    c.store.getOrder x = none ∧ OrderEntity.entityId row = x.id ∧ c'.store.getOrder x ≠ none := by
  simp only [Program.system, Program.step, OrderApp.program, OrderApp.event] at hstep
  split at hstep
  · cases hstep
  · next s hev =>
    cases hstep
    split at hev <;> cases hev
    next hnew =>
    refine ⟨Option.map_eq_none_iff.2 hnew.1, hnew.2, ?_⟩
    simp [AppStore.getOrder]
  · next hev => split at hev <;> cases hev

theorem not_inserted_later {row row' : x.type.Entity} {ls' : List (Label AppEvt OrderChoice)}
    (hrun : env.system.run ⟨{}, []⟩ (ls ++ .event (.insert x row) :: ls') = some c) :
    .event (.insert x row') ∉ ls' := by
  intro hmem
  obtain ⟨later, rest, rfl⟩ := List.append_of_mem hmem
  obtain ⟨c₁, hrun₁, hrest⟩ := System.exists_run_of_append hrun
  obtain ⟨c₂, hinsert, hrest⟩ := Option.bind_eq_some_iff.1 hrest
  obtain ⟨c₃, hlater, hrest⟩ := System.exists_run_of_append hrest
  obtain ⟨c₄, hagain, -⟩ := Option.bind_eq_some_iff.1 hrest
  obtain ⟨-, -, hsome⟩ := insert_cases hinsert
  have hrun₂ : env.system.run ⟨{}, []⟩ (ls ++ [.event (.insert x row)]) = some c₂ :=
    System.run_append hrun₁ (by rw [System.run_cons, hinsert]; rfl)
  exact getOrder_run hrun₂ hsome hlater (insert_cases hagain).1

/-- An order is inserted once. -/
theorem inserted_once {row row' : x.type.Entity} (hrun : env.system.run ⟨{}, []⟩ ls = some c)
    (hrow : .event (.insert x row) ∈ ls) (hrow' : .event (.insert x row') ∈ ls) : row = row' := by
  obtain ⟨before, after, rfl⟩ := List.append_of_mem hrow
  rcases List.mem_append.1 hrow' with hbefore | hafter
  · obtain ⟨first, between, rfl⟩ := List.append_of_mem hbefore
    rw [List.append_assoc, List.cons_append] at hrun
    exact absurd (List.mem_append_right _ List.mem_cons_self) (not_inserted_later hrun)
  · rcases List.mem_cons.1 hafter with heq | hafter
    · cases heq
      rfl
    · exact absurd hafter (not_inserted_later hrun)

theorem entityId_of_inserted {row : x.type.Entity} (hrun : env.system.run ⟨{}, []⟩ ls = some c)
    (hrow : .event (.insert x row) ∈ ls) : OrderEntity.entityId row = x.id := by
  obtain ⟨before, after, rfl⟩ := List.append_of_mem hrow
  obtain ⟨c₁, -, hrest⟩ := System.exists_run_of_append hrun
  obtain ⟨c₂, hinsert, -⟩ := Option.bind_eq_some_iff.1 hrest
  exact (insert_cases hinsert).2.1

/-- Every run keeps the terms of the rows that were inserted. -/
theorem exists_terms {known : Settings} {Rows : (x : OrderId) → x.type.Entity → Prop}
    {Reports : Report → Prop} (hempty : known.config [])
    (hpermits : ∀ e, .event e ∈ ls → Permits known Rows Reports e)
    (hrun : env.system.run ⟨{}, []⟩ ls = some c) :
    ∃ first : (x : OrderId) → x.type.Entity,
      (∀ x row, .event (.insert x row) ∈ ls → row = first x) ∧ (appContract known first).PoolOk c := by
  have hfirst : ∀ y : OrderId, ∃ first : y.type.Entity,
      ∀ row, .event (.insert y row) ∈ ls → row = first := by
    intro y
    by_cases hy : ∃ row : y.type.Entity, .event (.insert y row) ∈ ls
    · obtain ⟨first, hfirst⟩ := hy
      exact ⟨first, fun row hrow => inserted_once hrun hrow hfirst⟩
    · have u : Nonempty y.Store := inferInstance
      exact ⟨u.some.row, fun row hrow => absurd ⟨row, hrow⟩ hy⟩
  choose first hfirst using hfirst
  have hinv : (appContract known first).Inv {} := by
    refine ⟨⟨fun h => ?_, fun h => ?_, hempty⟩, fun x u hu => ?_⟩
    · cases h
    · cases h
    · cases hu
  refine ⟨first, hfirst, Contract.run kept_appContract (.idle hinv) (fun e he => ?_) hrun⟩
  cases e with
  | insert y row => exact hfirst y row he
  | setRWKeypair | setExternalKeypair | saveConfig => exact hpermits _ he
  | _ => trivial

/-- What the terms say of an order whose row was inserted. -/
theorem terms_of_poolOk {known : Settings} {first : (x : OrderId) → x.type.Entity}
    (hc : (appContract known first).PoolOk c) :
    (∀ u, c.store.getOrder x = some u → ∀ value ∈ u.values,
        (x.type.orderTerms known (first x)).Agrees value) ∧
      ∀ T ∈ c.tasks, ∀ op, callOf x T.op = some op →
        (x.type.orderTerms known (first x)).Asked op := by
  refine ⟨fun u hu value hvalue => ?_, fun T hT op hop => ?_⟩
  · obtain ⟨u', hu', rfl⟩ := getOrder_eq_some.1 hu
    exact hc.inv.2 x u' hu' value hvalue
  · have hasks := (hc.tasks T hT).1
    rwa [callOf_eq_some hop] at hasks

/-! ## Transfers that are about to be created -/

section

variable {Reports : Report → Prop}

/-- An order for which a transfer is about to be created, and its incoming transfer. -/
theorem incoming_of_pending {Rows : (x : OrderId) → x.type.Entity → Prop}
    (hdev : ∀ type, (env.orderEnv type).devTest = false)
    (hnew : ∀ x row, Rows x row → NewRow x row)
    (hall : env.system.Meets (Program.Allows (Brings Rows Reports)) ⟨{}, []⟩ ls)
    (hrun : env.system.run ⟨{}, []⟩ ls = some c)
    {T : Task AppStore (FamilyAns AppOp.Ans OrderId.Ans) Err OrderProcess} (hT : T ∈ c.tasks)
    {op : x.Op} (hop : T.op = .inr ⟨x, op⟩) (hcreates : op.creates = true)
    (hreply : T.reply = none) :
    ∃ row, Rows x row ∧ OrderEntity.entityId row = x.id ∧ (x.type.transfers.deposits row = true →
      Reports ⟨x.type.transfers.incoming, true, x.type.transfers.inTx row⟩ ∧
        env.linkOf x.type.transfers.incoming (x.type.transfers.inTx row) = some x) := by
  rcases order_run hall hrun x with habsent | ⟨u, ls', d, ⟨m, row, rfl, hid, hrow⟩, hrun', hhears,
    htracks⟩
  · exact absurd hop ((habsent.tasks T hT).1 op)
  · obtain ⟨t, ht, rfl, hreply⟩ := htracks.pending hT hop hreply
    have hreports := reports_heard rfl hrun' hhears
    refine ⟨row, hrow, hid, fun hdeposits => ?_⟩
    obtain ⟨_ | _, id⟩ := x
    · have hI : (rechargeCase (env.orderEnv .RECHARGE) row False).Inv
          (({ row } : OrderStore RechargeOrder).withMemory m) :=
        RechargeOrder.New.inv (s := ({ row } : OrderStore RechargeOrder).withMemory m)
          (hnew _ _ hrow) ⟨rfl, rfl, rfl⟩ _ _
      have hreport := RechargeOrder.mgrSafe.confirmed_of_pending hI not_false hrun' ht hcreates
        hreply (hdev .RECHARGE) hdeposits
      exact ⟨(hreports _ hreport).2, (hreports _ hreport).1⟩
    · have hI : (redemptionCase (env.orderEnv .REDEMPTION) row False).Inv
          (({ row } : OrderStore RedemptionOrder).withMemory m) :=
        RedemptionOrder.New.inv (s := ({ row } : OrderStore RedemptionOrder).withMemory m)
          (hnew _ _ hrow) ⟨rfl, rfl, rfl⟩ _ _
      have hreport := RedemptionOrder.mgrSafe.confirmed_of_pending hI not_false hrun' ht hcreates
        hreply (hdev .REDEMPTION) hdeposits
      exact ⟨(hreports _ hreport).2, (hreports _ hreport).1⟩

/-- What a run brings, in steps. -/
theorem meets_of_permits {known : Settings} {Rows : (x : OrderId) → x.type.Entity → Prop}
    (hpermits : ∀ e, .event e ∈ ls → Permits known Rows Reports e) :
    env.system.Meets (Program.Allows
      (Brings (fun x row => .event (.insert x row) ∈ ls ∧ Rows x row) Reports)) ⟨{}, []⟩ ls :=
  meets_brings (fun _ _ hrow => ⟨hrow, hpermits _ hrow⟩) (fun _ hreport => hpermits _ hreport) _

/-- A transfer that is about to be created is the one that the row of its order says, and the
incoming transfer of that order has come. -/
theorem asked_of_pending {known : Settings} {Rows : (x : OrderId) → x.type.Entity → Prop}
    (hdev : ∀ type, (env.orderEnv type).devTest = false) (hempty : known.config [])
    (hnew : ∀ x row, Rows x row → NewRow x row)
    (hpermits : ∀ e, .event e ∈ ls → Permits known Rows Reports e)
    (hrun : env.system.run ⟨{}, []⟩ ls = some c)
    {T : Task AppStore (FamilyAns AppOp.Ans OrderId.Ans) Err OrderProcess} (hT : T ∈ c.tasks)
    {op : x.Op} (hop : T.op = .inr ⟨x, op⟩) (hcreates : op.creates = true)
    (hreply : T.reply = none) :
    ∃ row, Rows x row ∧ OrderEntity.entityId row = x.id ∧
      (x.type.orderTerms known row).Asked op ∧ (x.type.transfers.deposits row = true →
        Reports ⟨x.type.transfers.incoming, true, x.type.transfers.inTx row⟩ ∧
          env.linkOf x.type.transfers.incoming (x.type.transfers.inTx row) = some x) := by
  obtain ⟨row, ⟨hinsert, hrow⟩, hid, hincoming⟩ := incoming_of_pending hdev
    (fun x row h => hnew x row h.2) (meets_of_permits hpermits) hrun hT hop hcreates hreply
  obtain ⟨first, hfirst, hc⟩ := exists_terms hempty hpermits hrun
  cases hfirst x row hinsert
  exact ⟨_, hrow, hid, (terms_of_poolOk hc).2 T hT op (by rw [hop, callOf_self]), hincoming⟩

end

/-- In every run of the app, each value of an order agrees with the row that was inserted on all but
its state and its outgoing transaction, and each call that is pending for the order asks for what
this row says: the recipient, the amount, the chain and the asset of its transfers are those of the
row, and the key and the config that they use were given to the app in this run. -/
theorem transfers_as_ordered (env : AppEnv) (hrun : env.system.run ⟨{}, []⟩ ls = some c)
    {x : OrderId} {row : x.type.Entity} (hrow : .event (.insert x row) ∈ ls) :
    OrderEntity.entityId row = x.id ∧
      (∀ u, c.store.getOrder x = some u → ∀ value ∈ u.values,
        (x.type.orderTerms (settingsOf ls) row).Agrees value) ∧
      ∀ T ∈ c.tasks, ∀ op, callOf x T.op = some op →
        (x.type.orderTerms (settingsOf ls) row).Asked op := by
  have hpermits : ∀ e, .event e ∈ ls →
      Permits (settingsOf ls) (fun _ _ => True) (fun _ => True) e := by
    intro e he
    cases e with
    | setRWKeypair | setExternalKeypair => exact he
    | saveConfig => exact .inr he
    | _ => trivial
  have hempty : (settingsOf ls).config [] := .inl rfl
  obtain ⟨first, hfirst, hc⟩ := exists_terms hempty hpermits hrun
  cases hfirst x row hrow
  exact ⟨entityId_of_inserted hrun hrow, terms_of_poolOk hc⟩

namespace Sample

/-- The run up to the call that mints for the recharge. -/
def appMinting : AppSteps :=
  appSetUp ++ appConfirm ++ .event .queueInited :: (andThen (.order owner (.queueWaited 0)) 1 ++
  andThen (.order owner (.deliver .TO_TX_START false)) 1 ++
  .event (.saveConfig config) ::
    .event (.setRWKeypair (js "RECHARGEV2_ACCOUNT_BIWMETA_USDT") (js "secret")) ::
  andThen (.order owner (.deliver (.TRY_TRANSFER (some .RECHARGEV2_ACCOUNT)) false)) 1)

/-- The recipient and the amount of a call that mints. -/
def mintOf : owner.Op → Option (JsString × ℕ)
  | .createInternalIncreaseAsset req => some (req.recipientId, req.increasedAssetPrealnum)
  | _ => none

def mintTest (c : Pool AppStore (FamilyAns AppOp.Ans OrderId.Ans) Err OrderProcess) : Bool :=
  c.tasks.any fun T => (callOf owner T.op).any fun op => (mintOf op).isSome

theorem exists_appMinting :
    ∃ c, appEnv.system.run ⟨{}, []⟩ appMinting = some c ∧ mintTest c = true :=
  System.exists_run _ _ _ _ (by decide +kernel)

end Sample

/-- The mint of the recharge is pending. -/
theorem transfers_as_ordered_sample :
    ∃ c, Sample.appEnv.system.run ⟨{}, []⟩ Sample.appMinting = some c ∧
      Sample.mintTest c = true ∧ OrderEntity.entityId (Sample.rechargeOrder .ISSUE) = js "order" ∧
      (∀ u, c.store.getOrder Sample.owner = some u → ∀ value ∈ u.values,
        (RechargeOrder.orderTerms (settingsOf Sample.appMinting)
          (Sample.rechargeOrder .ISSUE)).Agrees value) ∧
      ∀ T ∈ c.tasks, ∀ op, callOf Sample.owner T.op = some op →
        RechargeOrder.Asked (settingsOf Sample.appMinting) (Sample.rechargeOrder .ISSUE) op := by
  obtain ⟨c, hrun, htest⟩ := Sample.exists_appMinting
  have hrow : .event (.insert Sample.owner (Sample.rechargeOrder .ISSUE)) ∈ Sample.appMinting :=
    List.mem_append_left _ (List.mem_append_left _ List.mem_cons_self)
  exact ⟨c, hrun, htest, transfers_as_ordered _ hrun hrow⟩

end CotServer
