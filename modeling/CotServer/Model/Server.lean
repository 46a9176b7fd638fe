import CotServer.Model.Order.App
import CotServer.Model.Recharge.Service
import CotServer.Model.Redemption.Service
import CotServer.Model.Signature

/-!
# The server

The requests in the web workers and the orders in the order worker, over one database, one wallet
and one Redis. A row that a request saves is an order of the order worker, and a transaction that it
saves is kept by the wallet under its id.
-/

namespace CotServer

open Async

/-- A request of a customer. -/
inductive ServerReq where
  | rechargeV2 (dto : RechargeService.RechargeV2ReqDto) (signatureInfo : SignatureInfo)
  | redemptionV2 (fromTrJson : RedemptionV2Tr)

/-- The order that a transaction is linked to. -/
def TransParam.order (param : TransParam) : OrderId where
  type :=
    match param.linkType with
    | .RECHARGE_ORDER => .RECHARGE
    | .REDEMPTION_ORDER => .REDEMPTION
  id := param.linkId

/-- The services, the order worker, what the token service says about contracts, and the
transactions that the wallet keeps. -/
structure ServerEnv where
  service : ServiceEnv
  app : AppEnv
  /-- `isRechargeDevTest` is the same in all workers. -/
  devTest_recharge : (app.orderEnv .RECHARGE).devTest = service.rechargeDevTest
  tokenInfo : ExternalChainName → JsString → ContractTokenInfo
  util : BfmetaSignUtil
  numberToString : Rat → JsString
  externalTransfer : JsString → Option SaveExternalTransferReq
  internalTransaction : JsString → Option SaveInternalTransactionReq
  linked_external : ∀ {txId req}, externalTransfer txId = some req →
    app.linkOf .external txId = some req.param.order
  linked_internal : ∀ {txId req}, internalTransaction txId = some req →
    app.linkOf .internal txId = some req.param.order

/-! ## The parts of the server -/

inductive ServerPart where
  | web
  | order
  deriving DecidableEq

namespace ServerPart

abbrev Store : ServerPart → Type
  | web => ServiceStore
  | order => AppStore

/-- The calls of the services name the request. -/
abbrev Op : ServerPart → Type
  | web => ServerReq × ServiceOp
  | order => AppOp ⊕ (Σ x : OrderId, x.Op)

abbrev Ans : (part : ServerPart) → part.Op → Type
  | web => fun op => op.2.Ans
  | order => FamilyAns AppOp.Ans OrderId.Ans

end ServerPart

structure ServerStore where
  service : ServiceStore := { config := [] }
  app : AppStore := {}

/-- A part as a component of the server. -/
def ServerStore.part : (part : ServerPart) → View ServerStore part.Store
  | .web =>
    { get := fun s => some s.service
      set := fun t s => { s with service := t }
      get_set := fun _ => rfl
      set_none := nofun }
  | .order =>
    { get := fun s => some s.app
      set := fun t s => { s with app := t }
      get_set := fun _ => rfl
      set_none := nofun }

/-- The calls of the controllers. -/
inductive ControllerOp where
  /-- `isBCFAddress` and `verifySignature`. -/
  | verify (message : RechargeV2ToTrInfoData) (signatureInfo : SignatureInfo)

abbrev ControllerOp.Ans : ControllerOp → Type
  | verify .. => Bool

abbrev ServerOp : Type := ControllerOp ⊕ (Σ part : ServerPart, part.Op)

abbrev ServerAns : ServerOp → Type := FamilyAns ControllerOp.Ans ServerPart.Ans

/-- An async function of the server. -/
abbrev ServerAsync := @Async ServerStore ServerOp ServerAns Err

namespace Server

variable (env : ServerEnv) {α : Type}

/-- A function of one part; both are always there. -/
def inPart (part : ServerPart) (p : @Async part.Store part.Op part.Ans Err α) : ServerAsync α :=
  Async.via (i := part) (ServerStore.part part) (.error []) p

/-- `RechargeController.rechargeV2`. -/
def rechargeV2 (req : ServerReq) (dto : RechargeService.RechargeV2ReqDto)
    (signatureInfo : SignatureInfo) : ServerAsync JsString := do
  let _ ← call (Sum.inl (ControllerOp.verify dto.message signatureInfo))
  inPart .web ((RechargeService.rechargeV2 env.service dto).tagged req)

/-- `RedemptionController.redemptionV2`. -/
def redemptionV2 (req : ServerReq) (fromTrJson : RedemptionV2Tr) : ServerAsync JsString :=
  inPart .web ((RedemptionService.redemptionV2 env.service fromTrJson).tagged req)

def serve (req : ServerReq) : ServerAsync Unit := do
  match req with
  | .rechargeV2 dto signatureInfo => let _ ← rechargeV2 env req dto signatureInfo
  | .redemptionV2 fromTrJson => let _ ← redemptionV2 env req fromTrJson

end Server

/-- Events of the order worker that are not caused in another worker. -/
def AppEvt.inside : AppEvt → Bool
  | insert .. | saveConfig _ => false
  | _ => true

inductive ServerEvt where
  | request (req : ServerReq)
  | app (e : AppEvt)
  | saveConfig (config : RechargeObject)

inductive ServerChoice where
  | web (choice : ServiceChoice)
  | order (choice : OrderChoice)

namespace Server

variable (env : ServerEnv)

/-- What an event does to the store, and what it starts. -/
def event (e : ServerEvt) (s : ServerStore) :
    Option (ServerStore × Option (OrderProcess × ServerAsync Unit)) :=
  match e with
  | .request req => some (s, some (.web, serve env req))
  | .app e =>
    if e.inside then do
      let (t, next) ← OrderApp.event env.app e s.app
      some ({ s with app := t }, next.map fun (process, p) => (process, inPart .order p))
    else none
  | .saveConfig config => do
    let (t, _) ← OrderApp.event env.app (.saveConfig config) s.app
    some ({ service := { s.service with config }, app := t }, none)

/-- What a call that has succeeded is to the order worker and to the wallet. -/
def commit (op : ServiceOp) (r : Except Err op.Ans) (s : AppStore) : Option AppStore :=
  match op, r with
  | .saveRechargeOrder order, .ok _ =>
    (OrderApp.event env.app (.insert ⟨.RECHARGE, order.entityId⟩ order) s).map (·.1)
  | .saveRedemptionOrder order, .ok _ =>
    (OrderApp.event env.app (.insert ⟨.REDEMPTION, order.entityId⟩ order) s).map (·.1)
  | .saveExternalTransfer req, .ok txId =>
    if env.externalTransfer txId = some req then some s else none
  | .saveInternalTransaction req, .ok txId =>
    if env.internalTransaction txId = some req then some s else none
  | _, _ => some s

/-- The answer to a call. -/
def answer (op : ServerOp) (choice : ServerChoice) (s : ServerStore) :
    Option (Except Err (ServerAns op) × ServerStore) :=
  match op, choice with
  | .inl (.verify message signatureInfo), .web .done =>
    some (rechargeV2Checks env.util env.numberToString s.app.memory.now message signatureInfo, s)
  | .inl _, .web (.fails e) => some (.error e, s)
  | .inr ⟨.web, (_, op)⟩, .web choice => do
    let (r, service) ← op.answerWith env.tokenInfo env.service choice s.service
    let app ← commit env op r s.app
    some (r, { service, app })
  | .inr ⟨.order, op⟩, .order choice => do
    let (r, app) ← OrderApp.answer env.app op choice s.app
    some (r, { s with app })
  | _, _ => none

/-- The system of the server. A restart is one of the order worker. -/
def program : @Program ServerStore ServerOp ServerAns Err ServerEvt ServerChoice OrderProcess where
  event := event env
  kills
    | .app e => (OrderApp.program env.app).kills e
    | _ => fun _ => false
  answer := answer env

end Server

end CotServer
