import CotServer.Model.Config.Writers
import CotServer.Theory.System

/-!
# The config and the external accounts of the platform

The stored config, and the accounts in Redis and in the key maps of the processes. A request or a
restart of the order worker is one step: its function runs to its end, with the calls answered as
the label chooses; `initExternalAccount` and `injectExternalAddress` are runs of their own on the
accounts.
-/

namespace CotServer

open Async

/-- The order worker; every other number is a web worker. -/
def orderWorker : Worker := 0

structure PlatformStore where
  config : BusinessConfig
  accounts : AccountStore := {}

/-- What is the same in every run: `verifyKey` decrypts and checks a request, `parseMnemonic` is
`JSON.parse` of an injected secret. -/
structure PlatformEnv where
  config : ConfigEnv
  account : AccountEnv
  verifyKey : JsString → Except Err JsString
  parseMnemonic : JsString → Except Err JsString
  getContractTokenInfo : JsString → JsString → ContractTokenInfo
  addressToHex : JsString → JsString
  encryptData : JsString → JsString

/-- The choices about a call; for the calls on the accounts, those about their own calls. -/
inductive PlatformChoice where
  | fails (e : Err)
  | done
  | text (s : JsString)
  | errors (texts : List JsString)
  | account (choices : List AccountChoice)

variable (env : PlatformEnv)

/-- A run on the accounts, as a call on the platform. -/
def AccountAsync.onPlatform {α : Type} (p : Account.AccountAsync α) (choices : List AccountChoice)
    (s : PlatformStore) : Option (Except Err α × PlatformStore) :=
  (p.exec (AccountOp.answer env.account) choices s.accounts).map fun (r, accounts) =>
    (r, { s with accounts })

def ConfigOp.answerOnPlatform (caller : Caller) (op : ConfigOp) (choice : PlatformChoice)
    (s : PlatformStore) : Option (Except Err op.Ans × PlatformStore) :=
  match op, choice with
  | initExternalAccount chainName assetType, .account choices =>
    AccountAsync.onPlatform env
      (Account.initExternalAccount env.account caller chainName assetType) choices s
  | injectExternalAddress chainName assetType keypairStr, .account choices =>
    AccountAsync.onPlatform env
      (Account.injectExternalAddress env.account caller chainName assetType env.parseMnemonic
        keypairStr) choices s
  | initExternalAccount .., _ => none
  | injectExternalAddress .., _ => none
  | _, .fails e => some (.error e, s)
  | verifyKey encryptConfig, .done => some (env.verifyKey encryptConfig, s)
  | validate _, .errors texts => some (.ok texts, s)
  | getAssetDetails .., .done => some (.ok (), s)
  | getContractTokenInfo chainName contract, .done =>
    some (.ok (env.getContractTokenInfo chainName contract), s)
  | addressToHex address, .done => some (.ok (env.addressToHex address), s)
  | getServerPublicKey, .text key => some (.ok key, s)
  | encryptData data, .done => some (.ok (env.encryptData data), s)
  -- the internal key map plays no part here
  | injectRWAddress .., .done => some (.ok true, s)
  | getConfig, .done => some (.ok s.config, s)
  | saveConfig config, .done => some (.ok (), { s with config })
  | saveConfigByKey recharge, .done =>
    some (.ok (), { s with config := { s.config with recharge := some recharge } })
  | _, _ => none

def ConfigCall.answerOnPlatform (c : ConfigCall) (choice : PlatformChoice) (s : PlatformStore) :
    Option (Except Err c.Ans × PlatformStore) :=
  c.op.answerOnPlatform env c.caller choice s

inductive PlatformRequest where
  | setConfig (w : Worker) (encryptConfig : JsString)
  | setRecharge (w : Worker) (rechargeConfig : RechargeObject)
  | injectExternalAddress (chainName : ExternalChainName) (assetType keypairStr : JsString)
  | restart

namespace PlatformRequest

/-- A restart empties the key map of the order worker. -/
def before : PlatformRequest → PlatformStore → PlatformStore
  | restart, s =>
    { s with accounts := { s.accounts with
      externalkeypairMap := Function.update s.accounts.externalkeypairMap orderWorker
        fun _ _ => none } }
  | _, s => s

/-- What runs; an injection that reaches a web worker is passed on to the order worker. -/
def function : PlatformRequest → ConfigAsync PlatformStore Unit
  | setConfig w encryptConfig => ConfigWriter.setConfig env.config w encryptConfig
  | setRecharge w rechargeConfig => ConfigWriter.setRecharge env.config w rechargeConfig
  | injectExternalAddress chainName assetType keypairStr => do
    let _ : Bool ← ConfigWriter.call orderWorker (.injectExternalAddress chainName assetType keypairStr)
  | restart => ConfigWriter.onModuleInit env.config orderWorker

/-- Requests for `setConfig` go to the web workers. -/
def accepted : PlatformRequest → Bool
  | setConfig w _ => w ≠ orderWorker
  | _ => true

end PlatformRequest

/-- A request, and the choices about its calls. -/
structure PlatformLabel where
  request : PlatformRequest
  choices : List PlatformChoice

/-- The transition system of the platform. -/
def platform : System PlatformStore PlatformLabel where
  step s l :=
    if l.request.accepted then
      ((l.request.function env).exec (ConfigCall.answerOnPlatform env) l.choices
        (l.request.before s)).map (·.2)
    else none

end CotServer
