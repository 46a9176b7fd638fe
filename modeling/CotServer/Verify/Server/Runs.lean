import CotServer.Verify.OneConfig
import CotServer.Verify.Server.App

/-!
# Runs of the server

From the request of a customer to the transfer of the order worker: whatever is served at the same
time, a mint is for a deposit and a payout for a burn that has been submitted with a request, that
has been decoded and checked under stored configs, and that the wallet has reported.
-/

namespace CotServer

open Async Contract

variable {env : ServerEnv} {ls : List (Label ServerEvt ServerChoice)}
  {c : Pool ServerStore ServerAns Err OrderProcess}

/-- A row that a request of the run creates. -/
abbrev MadeIn (env : ServerEnv) (ls : List (Label ServerEvt ServerChoice)) (x : OrderId)
    (row : x.type.Entity) : Prop :=
  Made env (serverSettings ls) (fun req => .event (.request req) ∈ ls) x row

abbrev ReportedIn (ls : List (Label ServerEvt ServerChoice)) (report : Report) : Prop :=
  .event (.app (.onChain report)) ∈ ls

theorem newRow_of_made {known : Settings} {Started : ServerReq → Prop} (x : OrderId)
    (row : x.type.Entity) (h : Made env known Started x row) : NewRow x row := by
  obtain ⟨_ | _, id⟩ := x
  · obtain ⟨dto, signatureInfo, -, -, detail, hissue | hairdrop⟩ := h
    · exact hissue.new
    · exact hairdrop.new
  · obtain ⟨fromTrJson, detail, -, hcreated⟩ := h
    exact hcreated.new

theorem permits_self (ls : List (Label ServerEvt ServerChoice)) : ∀ e, .event e ∈ ls →
    ServerPermits (serverSettings ls) (fun req => .event (.request req) ∈ ls) (ReportedIn ls) e := by
  intro e he
  cases e with
  | request req => exact he
  | app e =>
    cases e with
    | onChain | setRWKeypair | setExternalKeypair => exact fun _ => he
    | saveConfig config => exact fun h => (by cases h)
    | _ => exact fun _ => trivial
  | saveConfig config => exact .inr he

/-- The run as the app has it. -/
theorem server_run_self (hrun : env.system.run ⟨{}, []⟩ ls = some c) :
    ∃ ls' d, env.app.system.run ⟨{}, []⟩ ls' = some d ∧
      (∀ e, .event e ∈ ls' → Permits (serverSettings ls) (MadeIn env ls) (ReportedIn ls) e) ∧
      Tracks .order (ServerStore.part .order) (.error []) (OrderApp.program env.app)
        (Given (serverSettings ls) (MadeIn env ls) (ReportedIn ls)) c d :=
  server_run (.inl rfl) (permits_self ls) hrun

/-- In every run of the server, with all requests and all orders, the order worker has come to where
a run of its own has brought it: with the same orders, and waiting for the same calls. In that run
each row that is inserted is one that a started request creates, for a signed message and after
checks under stored configs, and keys, configs and reports are those of the run of the server. -/
theorem server_refines_app (env : ServerEnv) (hrun : env.system.run ⟨{}, []⟩ ls = some c) :
    ∃ ls' d, env.app.system.run ⟨{}, []⟩ ls' = some d ∧ c.store.app = d.store ∧
      (c.tasks.filterMap fun T => callOf .order T.op).Perm (d.tasks.map (·.op)) ∧
      env.app.system.Meets (Program.Allows (Inserts NewRow)) ⟨{}, []⟩ ls' ∧
      ∀ e, .event e ∈ ls' → Permits (serverSettings ls) (MadeIn env ls) (ReportedIn ls) e := by
  obtain ⟨ls', d, hrun', hpermits, htracks⟩ := server_run_self hrun
  have hrows : ∀ x row, .event (.insert x row) ∈ ls' → NewRow x row := by
    intro x row hrow
    have hmade : MadeIn env ls x row := hpermits _ hrow
    exact newRow_of_made x row hmade
  have hbrings : env.app.system.Meets (Program.Allows (Brings NewRow fun _ => True)) ⟨{}, []⟩ ls' :=
    meets_brings hrows (fun _ _ => trivial) _
  have hnew : env.app.system.Meets (Program.Allows (Inserts NewRow)) ⟨{}, []⟩ ls' :=
    hbrings.mono fun _ _ hl a ha => inserts_iff.2 (hl a ha)
  exact ⟨ls', d, hrun', Option.some.inj htracks.store, htracks.calls, hnew, hpermits⟩

/-- A transfer that the order worker is about to have created, and where it comes from. -/
theorem made_of_pending (hdev : ∀ type, (env.app.orderEnv type).devTest = false)
    (hrun : env.system.run ⟨{}, []⟩ ls = some c)
    {T : Task ServerStore ServerAns Err OrderProcess} (hT : T ∈ c.tasks) {x : OrderId} {op : x.Op}
    (hop : T.op = .inr ⟨.order, .inr ⟨x, op⟩⟩) (hcreates : op.creates = true)
    (hreply : T.reply = none) :
    ∃ row, MadeIn env ls x row ∧ OrderEntity.entityId row = x.id ∧
      (x.type.orderTerms (serverSettings ls) row).Asked op ∧
      (x.type.transfers.deposits row = true →
        ReportedIn ls ⟨x.type.transfers.incoming, true, x.type.transfers.inTx row⟩ ∧
          env.app.linkOf x.type.transfers.incoming (x.type.transfers.inTx row) = some x) := by
  obtain ⟨ls', d, hrun', hpermits, htracks⟩ := server_run_self hrun
  obtain ⟨t, ht, htop, htreply⟩ := htracks.pending hT hop hreply
  have hempty : (serverSettings ls).config [] := .inl rfl
  exact asked_of_pending hdev hempty newRow_of_made hpermits hrun' ht htop hcreates htreply

/-! ## Mints -/

/-- A mint is for the deposit of a signed request: the order, and its detail. -/
structure MintFor (env : ServerEnv) (ls : List (Label ServerEvt ServerChoice)) (id : JsString)
    (req : IncreaseAssetReq) (dto : RechargeService.RechargeV2ReqDto)
    (order : RechargeOrder) (detail : RechargeTransDetail) : Prop where
  entityId : order.entityId = id
  issued : order.IssuedFor env (serverSettings ls).config dto detail
  chainName : req.chainName = dto.message.chainName
  recipientId : req.recipientId = dto.message.address
  assetType : req.assetType = dto.message.assetType
  amount : req.increasedAssetPrealnum = env.service.sdk.transformDecimalToBCF
    (detail.tokenDecimals env.tokenInfo) detail.fromDetail.amount
  secret : (serverSettings ls).rwkeypair order.mintAccount req.secret
  reported : ReportedIn ls ⟨.external, true, order.walletTxId⟩
  linked : env.app.linkOf .external order.walletTxId = some ⟨.RECHARGE, id⟩

/-- In every run of the server outside the development test, each mint that is asked of the wallet
goes to the address of a started recharge request, which has signed it, in the chain and asset of
its message, over the conversion of the amount of the deposit from the decimals of its token; the
deposit was decoded and checked under stored configs. The wallet keeps it for no other order, and
has reported it successful. -/
theorem mints_as_signed (env : ServerEnv)
    (hdev : ∀ type, (env.app.orderEnv type).devTest = false)
    (hrun : env.system.run ⟨{}, []⟩ ls = some c)
    {T : Task ServerStore ServerAns Err OrderProcess} (hT : T ∈ c.tasks) {id : JsString}
    {req : IncreaseAssetReq}
    (hop : T.op = .inr ⟨.order, .inr ⟨⟨.RECHARGE, id⟩, .createInternalIncreaseAsset req⟩⟩)
    (hreply : T.reply = none) :
    ∃ dto signatureInfo order detail, .event (.request (.rechargeV2 dto signatureInfo)) ∈ ls ∧
      SignatureValid env.numberToString env.util dto.message signatureInfo.signature
        signatureInfo.publicKey ∧
      MintFor env ls id req dto order detail := by
  obtain ⟨order, ⟨dto, signatureInfo, hstarted, hsigned, hmade⟩, hid, hasked, hincoming⟩ :=
    made_of_pending hdev hrun hT hop rfl hreply
  obtain ⟨hissue, -, secret, config, item, hsecret, -, -, rfl⟩ := hasked
  obtain ⟨detail, hissued | hairdrop⟩ := hmade
  · have htarget := hissued.records.target.trans (congrArg _ hissued.detailed.toDetail)
    obtain ⟨hreported, hlinked⟩ := hincoming (decide_eq_true hissue)
    obtain ⟨-, hconverted⟩ := hissued.detailed.converted (env.devTest_recharge ▸ hdev .RECHARGE)
    exact ⟨dto, signatureInfo, order, detail, hstarted, hsigned, hid, hissued,
      congrArg RechargeTarget.internalChain htarget,
      congrArg RechargeTarget.internalAddress htarget,
      congrArg RechargeTarget.rechargeAssetType htarget,
      hissued.records.rechargeAmount.trans hconverted, hsecret, hreported, hlinked⟩
  · exact absurd (hissue.symm.trans hairdrop.rechargeType) (by decide)

/-! ## Payouts -/

/-- A payout is for the burn of a request. -/
structure PayoutFor (env : ServerEnv) (ls : List (Label ServerEvt ServerChoice)) (id : JsString)
    (req : ExternalTransferReq) (fromTrJson : RedemptionV2Tr) (order : RedemptionOrder)
    (detail : RedemptionTransDetail) : Prop where
  entityId : order.entityId = id
  created : order.CreatedFor env (serverSettings ls).config fromTrJson detail
  chainName : req.chainName = detail.toDetail.chainName
  recipientId : req.recipientId = detail.toDetail.address
  contractAddress : req.contractAddress = detail.toDetail.contractAddress
  amount : req.amount = detail.toAmount
  settled : detail.amounts.Settled env.service.sdk (detail.tokenDecimals env.tokenInfo)
  account : (serverSettings ls).externalkeypair detail.toDetail.chainName detail.toDetail.assetType
    req.account
  reported : ReportedIn ls ⟨.internal, true, order.redemptionTxId⟩
  linked : env.app.linkOf .internal order.redemptionTxId = some ⟨.REDEMPTION, id⟩

/-- In every run of the server outside the development test, each payout that is asked of the wallet
goes to the recipient of a burn that a started redemption request has submitted, over what both
fees leave of it, in the decimals of its token, as it was decoded and checked under stored configs.
The wallet keeps this burn for no other order, and has reported it successful. -/
theorem payouts_as_burned (env : ServerEnv)
    (hdev : ∀ type, (env.app.orderEnv type).devTest = false)
    (hrun : env.system.run ⟨{}, []⟩ ls = some c)
    {T : Task ServerStore ServerAns Err OrderProcess} (hT : T ∈ c.tasks) {id : JsString}
    {req : ExternalTransferReq}
    (hop : T.op = .inr ⟨.order, .inr ⟨⟨.REDEMPTION, id⟩, .createExternalTransfer req⟩⟩)
    (hreply : T.reply = none) :
    ∃ fromTrJson order detail, .event (.request (.redemptionV2 fromTrJson)) ∈ ls ∧
      PayoutFor env ls id req fromTrJson order detail := by
  obtain ⟨order, ⟨fromTrJson, detail, hstarted, hcreated⟩, hid, hasked, hincoming⟩ :=
    made_of_pending hdev hrun hT hop rfl hreply
  obtain ⟨account, haccount, rfl⟩ := hasked
  have hrecords := hcreated.records
  obtain ⟨hreported, hlinked⟩ := hincoming rfl
  rw [hrecords.walletChain, hrecords.walletAsset] at haccount
  exact ⟨fromTrJson, order, detail, hstarted, hid, hcreated, hrecords.walletChain,
    hrecords.walletAddress, hrecords.contractAddress,
    congrArg RedemptionAmounts.payout hrecords.amounts, hcreated.settled, haccount, hreported,
    hlinked⟩

/-! ## Samples -/

/-- The call of an order that a call of the server is. -/
def orderCall (x : OrderId) (op : ServerOp) : Option x.Op := (callOf .order op).bind (callOf x)

theorem orderCall_eq_some {x : OrderId} {op : ServerOp} {o : x.Op} (h : orderCall x op = some o) :
    op = .inr ⟨.order, .inr ⟨x, o⟩⟩ := by
  obtain ⟨app, happ, ho⟩ := Option.bind_eq_some_iff.1 h
  rw [callOf_eq_some happ, callOf_eq_some ho]

theorem exists_asked {α : Type} {x : OrderId} {f : x.Op → Option α}
    {T : Task ServerStore ServerAns Err OrderProcess}
    (h : (T.reply.isNone && ((orderCall x T.op).bind f).isSome) = true) :
    T.reply = none ∧ ∃ op a, T.op = .inr ⟨.order, .inr ⟨x, op⟩⟩ ∧ f op = some a := by
  obtain ⟨hreply, hasked⟩ := Bool.and_eq_true_iff.1 h
  obtain ⟨a, ha⟩ := Option.isSome_iff_exists.1 hasked
  obtain ⟨op, hop, ha⟩ := Option.bind_eq_some_iff.1 ha
  exact ⟨Option.isNone_iff_eq_none.1 hreply, op, a, orderCall_eq_some hop, ha⟩

def OrderOp.mint {E S : Type} : OrderOp E S → Option IncreaseAssetReq
  | createInternalIncreaseAsset req => some req
  | _ => none

def OrderOp.payout {E S : Type} : OrderOp E S → Option ExternalTransferReq
  | createExternalTransfer req => some req
  | _ => none

theorem mint_eq_some {E S : Type} {op : OrderOp E S} {req : IncreaseAssetReq}
    (h : op.mint = some req) : op = .createInternalIncreaseAsset req := by
  cases op <;> cases h
  rfl

theorem payout_eq_some {E S : Type} {op : OrderOp E S} {req : ExternalTransferReq}
    (h : op.payout = some req) : op = .createExternalTransfer req := by
  cases op <;> cases h
  rfl

namespace Sample

/-- The orders of the two requests. -/
def minted : OrderId := ⟨.RECHARGE, uuid 0⟩

def paidOut : OrderId := ⟨.REDEMPTION, uuid 1⟩

def deposited : SaveExternalTransferReq where
  chainName := .TRON
  transactionJSON := .tron ⟨js "TDeposit"⟩
  «from» := js "0xsender"
  «to» := js "TDeposit"
  amount := 1500000
  assetSymbol := js "TRX"
  fee := js "0"
  contract := none
  param := ⟨.RECHARGE_ORDER, uuid 0⟩

def burned : SaveInternalTransactionReq where
  chainName := js "BIWMETA"
  transactionJSON := ⟨js "bApply", some .TRON, some (js "TReceiver"), some (js "TRX")⟩
  param := ⟨.REDEMPTION_ORDER, uuid 1⟩

/-- The wallet keeps one deposit and one burn, and every signature is by `bReceiver`. -/
def serverEnv : ServerEnv where
  service := Sample.env
  app :=
    { orderEnv := fun _ => orderEnv
      linkOf := fun side txId =>
        match side with
        | .external => if txId = js "deposit" then some minted else none
        | .internal => if txId = js "burn" then some paidOut else none }
  util :=
    { isBCFAddress := fun _ => .ok true
      detachedVeriy := fun _ _ _ => .ok true
      getAddressFromPublicKeyString := fun _ => .ok (js "bReceiver") }
  devTest_recharge := rfl
  tokenInfo := tokenInfo
  numberToString _ := js "0"
  externalTransfer txId := if txId = js "deposit" then some deposited else none
  internalTransaction txId := if txId = js "burn" then some burned else none
  linked_external := by
    intro txId req h
    split at h
    · next htx =>
      cases h
      exact if_pos htx
    · cases h
  linked_internal := by
    intro txId req h
    split at h
    · next htx =>
      cases h
      exact if_pos htx
    · cases h

abbrev ServerSteps := List (Label ServerEvt ServerChoice)

/-- A request and the answers to its calls. -/
def thenRequest (req : ServerReq) (choices : List ServiceChoice) : ServerSteps :=
  .event (.request req) :: choices.flatMap fun choice => [.answer 0 (.web choice), .resume 0]

/-- An event of the order worker and the answers to the next calls of the first function. -/
def thenOrder (e : AppEvt) (n : Nat) : ServerSteps :=
  .event (.app e) :: Program.awaits 0 (.order .done) n

def serverRequests : ServerSteps :=
  .event (.saveConfig config) ::
    thenRequest (.rechargeV2 tronRecharge ⟨js "00", js "00", 0⟩) (.done :: rechargeChoices) ++
    thenRequest (.redemptionV2 tronRedemption) tronChoices

/-- Both orders are taken up, and the deposit and the burn are reported. -/
def serverConfirm : ServerSteps :=
  [.event (.app (.setRWKeypair (js "RECHARGEV2_ACCOUNT_BIWMETA_USDT") (js "secret"))),
    .event (.app (.setExternalKeypair .TRON (js "TRX") account))] ++
  thenOrder (.order minted .setOrderPending) 3 ++ thenOrder (.order paidOut .setOrderPending) 2 ++
  thenOrder (.onChain ⟨.external, true, js "deposit"⟩) 2 ++
  thenOrder (.onChain ⟨.internal, true, js "burn"⟩) 4

/-- The run up to where the mint and the payout are asked for. -/
def serverRun : ServerSteps :=
  serverRequests ++ serverConfirm ++ .event (.app .queueInited) ::
    thenOrder (.order minted (.queueWaited 0)) 1 ++
  thenOrder (.order minted (.deliver .TO_TX_START false)) 1 ++
  thenOrder (.order minted (.deliver (.TRY_TRANSFER (some .RECHARGEV2_ACCOUNT)) false)) 1 ++
  [.event (.app (.order paidOut (.deliver .TO_TX_START false)))]

def asksMint (T : Task ServerStore ServerAns Err OrderProcess) : Bool :=
  T.reply.isNone && ((orderCall minted T.op).bind OrderOp.mint).isSome

def asksPayout (T : Task ServerStore ServerAns Err OrderProcess) : Bool :=
  T.reply.isNone && ((orderCall paidOut T.op).bind OrderOp.payout).isSome

theorem exists_serverRun : ∃ c, serverEnv.system.run ⟨{}, []⟩ serverRun = some c ∧
    (c.tasks.any asksMint && c.tasks.any asksPayout) = true :=
  System.exists_run _ _ _ _ (by decide +kernel)

end Sample

theorem server_refines_app_sample :
    ∃ c, Sample.serverEnv.system.run ⟨{}, []⟩ Sample.serverRun = some c ∧
      (c.tasks.any Sample.asksMint && c.tasks.any Sample.asksPayout) = true ∧
      ∃ ls' d, Sample.serverEnv.app.system.run ⟨{}, []⟩ ls' = some d ∧ c.store.app = d.store ∧
        (c.tasks.filterMap fun T => callOf .order T.op).Perm (d.tasks.map (·.op)) ∧
        Sample.serverEnv.app.system.Meets (Program.Allows (Inserts NewRow)) ⟨{}, []⟩ ls' ∧
        ∀ e, .event e ∈ ls' → Permits (serverSettings Sample.serverRun)
          (MadeIn Sample.serverEnv Sample.serverRun) (ReportedIn Sample.serverRun) e := by
  obtain ⟨c, hrun, htest⟩ := Sample.exists_serverRun
  exact ⟨c, hrun, htest, server_refines_app _ hrun⟩

/-- The mint of the recharge is asked for. -/
theorem mints_as_signed_sample :
    ∃ c, Sample.serverEnv.system.run ⟨{}, []⟩ Sample.serverRun = some c ∧
      ∃ req dto signatureInfo order detail,
        .event (.request (.rechargeV2 dto signatureInfo)) ∈ Sample.serverRun ∧
        SignatureValid Sample.serverEnv.numberToString Sample.serverEnv.util dto.message
          signatureInfo.signature signatureInfo.publicKey ∧
        MintFor Sample.serverEnv Sample.serverRun (Sample.uuid 0) req dto order detail := by
  obtain ⟨c, hrun, htest⟩ := Sample.exists_serverRun
  obtain ⟨T, hT, hasks⟩ := List.any_eq_true.1 (Bool.and_eq_true_iff.1 htest).1
  obtain ⟨hreply, op, req, hop, hreq⟩ := exists_asked hasks
  obtain rfl := mint_eq_some hreq
  exact ⟨c, hrun, req, mints_as_signed _ (fun _ => rfl) hrun hT hop hreply⟩

/-- The payout of the redemption is asked for. -/
theorem payouts_as_burned_sample :
    ∃ c, Sample.serverEnv.system.run ⟨{}, []⟩ Sample.serverRun = some c ∧
      ∃ req fromTrJson order detail,
        .event (.request (.redemptionV2 fromTrJson)) ∈ Sample.serverRun ∧
        PayoutFor Sample.serverEnv Sample.serverRun (Sample.uuid 1) req fromTrJson order detail := by
  obtain ⟨c, hrun, htest⟩ := Sample.exists_serverRun
  obtain ⟨T, hT, hasks⟩ := List.any_eq_true.1 (Bool.and_eq_true_iff.1 htest).2
  obtain ⟨hreply, op, req, hop, hreq⟩ := exists_asked hasks
  obtain rfl := payout_eq_some hreq
  exact ⟨c, hrun, req, payouts_as_burned _ (fun _ => rfl) hrun hT hop hreply⟩

end CotServer
