import CotServer.Verify.Server.Requests
import CotServer.Verify.SignedMessage
import CotServer.Verify.Terms

/-!
# The order worker in the server

What the server does to the order worker is what the app can do on its own, where each row that is
inserted is one that a request has created.
-/

namespace CotServer

open Async Contract

variable {env : ServerEnv} {known : Settings} {Started : ServerReq → Prop}
  {Reports : Report → Prop}

abbrev ServerEnv.system (env : ServerEnv) := (Server.program env).system

/-- A row that a started request creates: a recharge for a signed message, or a redemption. -/
def Made (env : ServerEnv) (known : Settings) (Started : ServerReq → Prop) :
    (x : OrderId) → x.type.Entity → Prop
  | ⟨.RECHARGE, _⟩, order => ∃ dto signatureInfo, Started (.rechargeV2 dto signatureInfo) ∧
    SignatureValid env.numberToString env.util dto.message signatureInfo.signature
      signatureInfo.publicKey ∧ RechargeOrder.CreatedFor env known.config dto order
  | ⟨.REDEMPTION, _⟩, order => ∃ fromTrJson detail, Started (.redemptionV2 fromTrJson) ∧
    RedemptionOrder.CreatedFor env known.config fromTrJson order detail

/-! ## The contract of the server -/

def webContract (env : ServerEnv) (known : Settings) (Started : ServerReq → Prop) :
    Contract ServiceStore (ServerPart.Ans .web) where
  Inv s := known.config s.config
  Asks op := ∀ row ∈ op.2.order, Made env known Started row.1 row.2
  Tells op := (serviceContract env known.config (Made env known Started)).Tells op.2

def serverContract (env : ServerEnv) (known : Settings) (Started : ServerReq → Prop) :
    Contract ServerStore ServerAns where
  Inv s := known.config s.service.config
  Asks
    | .inr ⟨.web, op⟩ => (webContract env known Started).Asks op
    | _ => True
  Tells
    | .inl (.verify message signatureInfo), _ =>
      SignatureValid env.numberToString env.util message signatureInfo.signature
        signatureInfo.publicKey
    | .inr ⟨.web, op⟩, a => (webContract env known Started).Tells op a
    | .inr ⟨.order, _⟩, _ => True

/-- What an event of the server may bring. -/
def ServerPermits (known : Settings) (Started : ServerReq → Prop) (Reports : Report → Prop) :
    ServerEvt → Prop
  | .request req => Started req
  | .app e => e.inside = true → Permits known (fun _ _ => True) Reports e
  | .saveConfig config => known.config config

theorem within_web : Within .web (ServerStore.part .web) (webContract env known Started)
    (serverContract env known Started) where
  get hs hget := by
    cases hget
    exact hs
  set _ _ hu := hu
  asks h := h
  tells h := h

theorem within_order : Within .order (ServerStore.part .order)
    (Contract.nothing AppStore (ServerPart.Ans .order)) (serverContract env known Started) where
  get _ _ := trivial
  set hs _ _ := hs
  asks _ := trivial
  tells _ := trivial

/-- A function of a service, for a request. -/
theorem holds_inWeb {α : Type} {req : ServerReq} {p : Service α} {Q : α → Prop} {s : ServerStore}
    (hs : (serverContract env known Started).Inv s)
    (hp : (serviceContract env known.config (Made env known Started)).Upholds p Q) :
    (serverContract env known Started).Holds (Server.inPart .web (p.tagged req)) Q s := by
  have hp : (webContract env known Started).Holds (p.tagged req) Q s.service :=
    Holds.tagged (fun _ => Iff.rfl) (fun _ h => h) (fun _ _ h => h) (hp s.service hs)
  exact hp.via within_web hs hs fun u hu => Option.some.inj hu.symm

/-- A message that passes the checks is signed by the key of its address. -/
theorem signatureValid_of_ok {util : BfmetaSignUtil} {numberToString : Rat → JsString} {now : Int}
    {message : RechargeV2ToTrInfoData} {signatureInfo : SignatureInfo} {b : Bool}
    (h : rechargeV2Checks util numberToString now message signatureInfo = .ok b) :
    SignatureValid numberToString util message signatureInfo.signature signatureInfo.publicKey := by
  cases b with
  | true => exact (accepted_iff.1 h).1
  | false =>
    -- the checks return `true` or throw
    unfold rechargeV2Checks verifySignature at h
    simp only [Bind.bind, Except.bind, Pure.pure, Except.pure, throw, throwThe,
      MonadExceptOf.throw] at h
    grind

theorem keeps_serve {req : ServerReq} (hreq : Started req) {s : ServerStore}
    (hs : (serverContract env known Started).Inv s) :
    (serverContract env known Started).Keeps (Server.serve env req) s := by
  cases req with
  | rechargeV2 dto signatureInfo =>
    refine Holds.bind (Q := fun _ => True) ?_ hs fun _ _ _ _ => holds_pure trivial
    refine Holds.bind (holds_call trivial fun b hb => hb) hs fun b t ht hb => ?_
    refine holds_inWeb ht (RechargeService.upholds_rechargeV2 fun order horder => ?_)
    exact ⟨dto, signatureInfo, hreq, hb, horder⟩
  | redemptionV2 fromTrJson =>
    refine Holds.bind (Q := fun _ => True) ?_ hs fun _ _ _ _ => holds_pure trivial
    exact holds_inWeb hs (RedemptionService.upholds_redemptionV2 fun order detail horder =>
      ⟨fromTrJson, detail, hreq, horder⟩)

/-- The answers to the services. -/
theorem answer_service {op : ServiceOp} {choice : ServiceChoice} {s t : ServiceStore}
    {u u' : AppStore} {r : Except Err op.Ans} (Stores : (x : OrderId) → x.type.Entity → Prop)
    (h : op.answerWith env.tokenInfo env.service choice s = some (r, t))
    (hcommit : Server.commit env op r u = some u') (hs : known.config s.config) :
    known.config t.config ∧
      ∀ a, r = .ok a → (serviceContract env known.config Stores).Tells op a := by
  cases choice with
  | fails e =>
    cases op <;> cases h <;> exact ⟨hs, fun _ h => by cases h⟩
  | done =>
    cases op with
    | isRechargeDevTest =>
      cases h
      refine ⟨hs, ?_⟩
      rintro _ ⟨⟩
      rfl
    | getConfigByKeyForce =>
      cases h
      refine ⟨hs, ?_⟩
      rintro _ ⟨⟩
      exact hs
    | saveRedemptionOrder order =>
      have hsave : (ServiceOp.saveRedemptionOrder order).answer env.service .done s =
          some (r, t) := h
      obtain ⟨_, _, rfl⟩ | ⟨_, _, rfl⟩ := answer_saveRedemptionOrder hsave <;>
        exact ⟨hs, fun _ _ => trivial⟩
    | _ => cases h <;> exact ⟨hs, fun _ _ => trivial⟩
  | text txId =>
    cases op <;> simp only [ServiceOp.answerWith, ServiceOp.answer, reduceCtorEq] at h <;> cases h
    case text.getInjectExternalAddress.refl => exact ⟨hs, fun _ _ => trivial⟩
    all_goals
      simp only [Server.commit] at hcommit
      split at hcommit
      · next hsaved =>
        refine ⟨hs, ?_⟩
        rintro _ ⟨⟩
        exact hsaved
      · cases hcommit
  | tokenInfo info =>
    cases op <;> simp only [ServiceOp.answerWith, ServiceOp.answer, reduceCtorEq] at h
    cases h
    refine ⟨hs, ?_⟩
    rintro _ ⟨⟩
    rfl
  | amount n =>
    cases op <;> simp only [ServiceOp.answerWith, ServiceOp.answer, reduceCtorEq] at h <;> cases h <;>
      exact ⟨hs, fun _ _ => trivial⟩

theorem kept_serverContract : (serverContract env known Started).Kept (Server.program env)
    (ServerPermits known Started Reports) where
  answer {op o s r t} hop hs hans := by
    simp only [Server.program, Server.answer] at hans
    split at hans
    · cases hans
      exact ⟨hs, fun b hb => signatureValid_of_ok hb⟩
    · cases hans
      exact ⟨hs, fun _ h => by cases h⟩
    · obtain ⟨⟨r', service⟩, hservice, hans⟩ := Option.bind_eq_some_iff.1 hans
      obtain ⟨app, hcommit, hans⟩ := Option.bind_eq_some_iff.1 hans
      cases hans
      exact answer_service (Made env known Started) hservice hcommit hs
    · obtain ⟨⟨r', app⟩, happ, hans⟩ := Option.bind_eq_some_iff.1 hans
      cases hans
      exact ⟨hs, fun _ _ => trivial⟩
    · cases hans
  event {e s t next} he hs hev := by
    cases e with
    | request req =>
      cases hev
      refine ⟨hs, ?_⟩
      rintro _ _ ⟨⟩
      exact keeps_serve he hs
    | app e =>
      simp only [Server.program, Server.event] at hev
      split at hev
      · obtain ⟨⟨app, next'⟩, happ, hev⟩ := Option.bind_eq_some_iff.1 hev
        cases hev
        refine ⟨hs, fun tag p hp => ?_⟩
        obtain ⟨⟨_, q⟩, rfl, hq⟩ := Option.map_eq_some_iff.1 hp
        cases hq
        exact holds_nothing.via within_order hs trivial fun u hu => Option.some.inj hu.symm
      · cases hev
    | saveConfig config =>
      cases hev
      exact ⟨he, fun _ _ h => by cases h⟩

/-! ## The order worker as a component -/

/-- Rows, keys and configs come to the app as they may. -/
def Given (known : Settings) (Rows : (x : OrderId) → x.type.Entity → Prop)
    (Reports : Report → Prop) :
    AppStore → Action (FamilyAns AppOp.Ans OrderId.Ans) Err AppEvt OrderChoice → Prop :=
  fun _ a => ∀ e, a = .event e → Permits known Rows Reports e

/-- Events and calls of the server as its contract says. -/
def ServerGiven (env : ServerEnv) (known : Settings) (Started : ServerReq → Prop)
    (Reports : Report → Prop) : ServerStore → Action ServerAns Err ServerEvt ServerChoice → Prop :=
  fun _ a => (∀ e, a = .event e → ServerPermits known Started Reports e) ∧
    ∀ op o, a = .answer op o → (serverContract env known Started).Asks op

abbrev ServerAside (env : ServerEnv) (known : Settings) (Started : ServerReq → Prop)
    (Reports : Report → Prop) (process : OrderProcess) : ServerAsync Unit → ServerStore → Prop :=
  Aside .order (ServerStore.part .order) (.error []) (OrderApp.program env.app)
    (Given known (Made env known Started) Reports) process

theorem given_of_permits {e : AppEvt} {s : AppStore}
    {Rows : (x : OrderId) → x.type.Entity → Prop} (h : Permits known Rows Reports e) :
    Given known Rows Reports s (.event e) := by
  rintro _ ⟨⟩
  exact h

theorem permits_of_inside {e : AppEvt} {Rows : (x : OrderId) → x.type.Entity → Prop}
    (h : Permits known (fun _ _ => True) Reports e) (he : e.inside = true) :
    Permits known Rows Reports e := by
  cases e with
  | insert => cases he
  | _ => exact h

theorem serverAside_settle {process : OrderProcess} (r : Except Err Unit) (s : ServerStore) :
    ServerAside env known Started Reports process (settle r) s := by
  cases r with
  | ok a => exact .ret
  | error e => exact .fail

theorem inPart_followedBy {part : ServerPart}
    (p : @Async part.Store part.Op part.Ans Err Unit) : Server.inPart part p =
      (p.via (ServerStore.part part) (.error [])).followedBy settle :=
  (followedBy_settle _).symm

/-- The functions of the services leave the order worker alone. -/
theorem aside_inWeb {α : Type} {process : OrderProcess}
    {p : @Async ServiceStore (ServerReq × ServiceOp) (ServerPart.Ans .web) Err α} (s : ServerStore) :
    ServerAside env known Started Reports process (Server.inPart .web p >>= fun _ => pure ()) s := by
  rw [bind_def]
  induction p generalizing s with
  | ret a => exact .ret
  | fail e => exact .fail
  | read k ih => exact .read (ih s.service s)
  | write t k ih => exact .read (.write rfl (ih _))
  | await op k ih =>
    refine .await (fun o ho => ?_) fun r s => ih r s
    cases ho

theorem aside_serve {process : OrderProcess} (req : ServerReq) (s : ServerStore) :
    ServerAside env known Started Reports process (Server.serve env req) s := by
  cases req with
  | rechargeV2 dto signatureInfo =>
    refine .await (fun o ho => by cases ho) fun r s => ?_
    cases r with
    | ok b => exact aside_inWeb s
    | error e => exact .fail
  | redemptionV2 fromTrJson => exact aside_inWeb s

/-- A call that stores a row inserts it. -/
theorem commit_cases {op : ServiceOp} {r : Except Err op.Ans} {u u' : AppStore}
    (h : Server.commit env op r u = some u') : u' = u ∨
      ∃ row ∈ op.order, OrderApp.event env.app (.insert row.1 row.2) u = some (u', none) := by
  have hinsert : ∀ {x : OrderId} {row : x.type.Entity},
      (OrderApp.event env.app (.insert x row) u).map (·.1) = some u' →
        OrderApp.event env.app (.insert x row) u = some (u', none) := by
    intro x row h
    simp only [OrderApp.event] at h ⊢
    split at h
    · next hnew =>
      cases h
      exact if_pos hnew
    · cases h
  cases r with
  | error e =>
    cases op <;> exact .inl (Option.some.inj h).symm
  | ok a =>
    cases op with
    | saveRechargeOrder order => exact .inr ⟨_, rfl, hinsert h⟩
    | saveRedemptionOrder order => exact .inr ⟨_, rfl, hinsert h⟩
    | saveExternalTransfer req =>
      simp only [Server.commit] at h
      split at h <;> cases h
      exact .inl rfl
    | saveInternalTransaction req =>
      simp only [Server.commit] at h
      split at h <;> cases h
      exact .inl rfl
    | _ => exact .inl (Option.some.inj h).symm

theorem hosts_order : Hosts .order (ServerStore.part .order) (.error []) (OrderApp.program env.app)
    (Given known (Made env known Started) Reports) (Server.program env)
    (ServerGiven env known Started Reports) (fun _ => False) where
  event {e s s' next u} hev hall hget := by
    cases hget
    cases e with
    | request req =>
      cases hev
      refine .aside (fun _ => rfl) rfl ?_
      rintro _ _ ⟨⟩
      exact aside_serve req s
    | app e =>
      simp only [Server.program, Server.event] at hev
      split at hev
      · next hinside =>
        obtain ⟨⟨app, next'⟩, happ, hev⟩ := Option.bind_eq_some_iff.1 hev
        cases hev
        have hgiven : Given known (Made env known Started) Reports s.app (.event e) :=
          given_of_permits (permits_of_inside (hall.1 _ rfl hinside) hinside)
        cases next' with
        | none => exact .event hgiven (fun _ => rfl) rfl happ
        | some next =>
          obtain ⟨process, p⟩ := next
          change HostedEvent .order _ _ _ _ _ _ _ (some (process, Server.inPart .order p))
          rw [inPart_followedBy]
          exact .start hgiven (fun _ => rfl) rfl happ serverAside_settle
      · cases hev
    | saveConfig config =>
      cases hev
      exact .event (e := .saveConfig config) (given_of_permits (hall.1 _ rfl)) (fun _ => rfl) rfl
        rfl
  absent _ _ hget := by cases hget
  answer {op o s s' u r} hans _ hget := by
    cases hget
    cases o with
    | web choice => cases hans
    | order choice =>
      obtain ⟨⟨r', app⟩, happ, hans⟩ := Option.bind_eq_some_iff.1 hans
      cases hans
      exact ⟨choice, app, happ, (fun _ h => by cases h), rfl⟩
  other {op o s s' r} hop hans hall := by
    refine ⟨fun hget => (by cases hget), fun u hget => ?_⟩
    cases hget
    obtain _ | ⟨_ | _, op⟩ := op
    · next op =>
      obtain ⟨message, signatureInfo⟩ := op
      cases o with
      | web choice =>
        cases choice <;> cases hans <;> exact ⟨s.app, .refl _, rfl⟩
      | order choice => cases hans
    · obtain ⟨req, op⟩ := op
      cases o with
      | web choice =>
        obtain ⟨⟨r', service⟩, -, hans⟩ := Option.bind_eq_some_iff.1 hans
        obtain ⟨app, hcommit, hans⟩ := Option.bind_eq_some_iff.1 hans
        cases hans
        refine ⟨app, ?_, rfl⟩
        rcases commit_cases hcommit with rfl | ⟨row, hrow, hinsert⟩
        · exact .refl _
        · have hmade : Permits known (Made env known Started) Reports (.insert row.1 row.2) :=
            hall.2 _ _ rfl row hrow
          exact .event (given_of_permits hmade) (fun _ => rfl) hinsert
      | order choice => cases hans
    · exact absurd rfl (hop op)
  resume _ _ := by
    rintro _ ⟨⟩

/-! ## Runs of the server -/

/-- The keys and configs of a run. The server begins with the empty config. -/
def serverSettings (ls : List (Label ServerEvt ServerChoice)) : Settings where
  rwkeypair accountType secret := .event (.app (.setRWKeypair accountType secret)) ∈ ls
  externalkeypair chainName assetType account :=
    .event (.app (.setExternalKeypair chainName assetType account)) ∈ ls
  config config := config = [] ∨ .event (.saveConfig config) ∈ ls

/-- The run of the server is one of the app. -/
theorem server_run {ls : List (Label ServerEvt ServerChoice)}
    {c : Pool ServerStore ServerAns Err OrderProcess} (hempty : known.config [])
    (hpermits : ∀ e, .event e ∈ ls → ServerPermits known Started Reports e)
    (hrun : env.system.run ⟨{}, []⟩ ls = some c) :
    ∃ ls' d, env.app.system.run ⟨{}, []⟩ ls' = some d ∧
      (∀ e, .event e ∈ ls' → Permits known (Made env known Started) Reports e) ∧
      Tracks .order (ServerStore.part .order) (.error []) (OrderApp.program env.app)
        (Given known (Made env known Started) Reports) c d := by
  have hidle : Tracks .order (ServerStore.part .order) (.error []) (OrderApp.program env.app)
      (Given known (Made env known Started) Reports)
      (⟨{}, []⟩ : Pool ServerStore ServerAns Err OrderProcess) ⟨{}, []⟩ :=
    ⟨rfl, [], .nil, .refl _⟩
  have hasks := Contract.meets_asks kept_serverContract
    (.idle (show (serverContract env known Started).Inv {} from hempty)) hpermits
  obtain ⟨ls', d, hrun', hmeets, htracks⟩ :=
    tracks_run hosts_order hidle (hasks.mono fun _ _ hl a ha => hl a ha) hrun
  exact ⟨ls', d, hrun', Program.events_of_meets _ hmeets hrun', htracks⟩

end CotServer
