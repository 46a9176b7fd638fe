import CotServer.Model.Config.Validator
import CotServer.Theory.Async

/-!
# `ConfigService.setRecharge`

The admin's write of the recharge config, on the JSON object it is given. `plainToClass` copies the
properties of that object to an instance of `RechargeClassDefine`, and `validate` runs the
constraint of the property `recharge` of the instance.
-/

namespace CotServer

/-- `error.message`. -/
def Err.message : Err → JsString
  | .error message => message
  | .response _ message => message

/-- The awaited calls of `setRecharge`. -/
inductive SetRechargeOp where
  | getContractTokenInfo (chainName : JsString) (contract : JsValue)
  | saveConfigByKey (recharge : JsValue)

abbrev SetRechargeOp.Ans : SetRechargeOp → Type
  | getContractTokenInfo .. => ContractTokenInfo
  | saveConfigByKey _ => Unit

inductive SetRechargeChoice where
  | fails (e : Err)
  | tokenInfo (info : ContractTokenInfo)
  | done

/-- The answer to a call; the store is the `recharge` key of the stored config. -/
def SetRechargeOp.answer (op : SetRechargeOp) (choice : SetRechargeChoice) (s : JsValue) :
    Option (Except Err op.Ans × JsValue) :=
  match choice with
  | .fails e => some (.error e, s)
  | choice =>
    match op, choice with
    | getContractTokenInfo .., .tokenInfo info => some (.ok info, s)
    | saveConfigByKey recharge, .done => some (.ok (), recharge)
    | _, _ => none

def SetRechargeOp.answers (op : SetRechargeOp) (s : JsValue) (r : Except Err op.Ans)
    (s' : JsValue) : Prop :=
  ∃ choice, op.answer choice s = some (r, s')

namespace ConfigService

open Async

abbrev SetRechargeAsync := Async JsValue SetRechargeOp.Ans Err

variable (env : VerifyEnv)

def getContractTokenInfo (chainName : JsString) (contract : JsValue) :
    SetRechargeAsync ContractTokenInfo :=
  call (SetRechargeOp.getContractTokenInfo chainName contract)

def saveConfigByKey (recharge : JsValue) : SetRechargeAsync Unit :=
  call (SetRechargeOp.saveConfigByKey recharge)

/-- `plainToClass(RechargeClassDefine, rechargeConfig)` and `validate`. -/
def checkConfig (rechargeConfig : List (JsString × JsValue)) : Except Err Unit := do
  let recharge := JsValue.property rechargeConfig (js "recharge")
  if !(← RechargeClassVerify.validate env recharge) then
    throw (.error (js "config validate error: " ++ env.errorsText recharge))

/-- The body of the innermost loop. -/
def resolveExternalItem (chainName _chain : JsString) (externalItem : JsValue) :
    SetRechargeAsync JsValue := do
  let contract ← settle (externalItem.read (js "contract"))
  if contract.truthy then
    let contractTokenInfo ← getContractTokenInfo chainName contract
    return externalItem.assign (js "assetType") (.string contractTokenInfo.symbol)
  else
    return externalItem

/-- The body of the loop over the assets of a chain. -/
def resolveItem (chainName _assetType : JsString) (item : JsValue) : SetRechargeAsync JsValue := do
  let supportChain ← settle (item.read (js "supportChain"))
  let supportChain ← supportChain.forIn (resolveExternalItem chainName)
  return item.replace (js "supportChain") supportChain

/-- The three loops. -/
def resolve (rechargeConfig : JsValue) : SetRechargeAsync JsValue :=
  rechargeConfig.forIn fun chainName assets => assets.forIn (resolveItem chainName)

def setRecharge (rechargeConfig : List (JsString × JsValue)) : SetRechargeAsync Unit :=
  tryCatch
    (do
      settle (checkConfig env rechargeConfig)
      let rechargeConfig ← resolve (.object rechargeConfig)
      saveConfigByKey rechargeConfig)
    fun error => throw (.error error.message)

end ConfigService

end CotServer
