import CotServer.Model.Types
import CotServer.Theory.JsValue

/-!
# `RechargeClassVerify`

The validator of recharge configs works on whatever JSON it is given; nothing has checked the types
before. What it asks of the enumerations and of the SDK is in `VerifyEnv`.
-/

namespace CotServer

/-- A chain or asset name is known when the enumeration has a truthy property of that name;
`errorsText` is the text of the errors that class-validator reports for a value. -/
structure VerifyEnv where
  errorsText : JsValue → JsString
  isInternalChainName : JsString → Bool
  isInternalAssetType : JsString → Bool
  isBCFAddress : JsValue → Except Err Bool
  isEthAddress : JsValue → Except Err Bool
  isTronAddress : JsValue → Except Err Bool

/-- `v.key`, as code that can throw. -/
def JsValue.read (v : JsValue) (key : JsString) : Except Err JsValue :=
  match v.get key with
  | some x => pure x
  | none => throw (.error (js "Cannot read properties of undefined or null (reading '" ++ key ++
      js "')"))

namespace RechargeClassVerify

variable (env : VerifyEnv)

/-- `ethCheck` and `tronCheck`, for the address test of the chain. -/
def externalCheck (isAddress : JsValue → Except Err Bool) (item : JsValue) : Except Err Bool := do
  let enable ← item.read (js "enable")
  let contract ← item.read (js "contract")
  let depositAddress ← item.read (js "depositAddress")
  if !enable.isBoolean then
    return false
  if contract.truthy then
    if !(← isAddress contract) then
      return false
  if !(← isAddress depositAddress) then
    return false
  return true

def ethCheck : JsValue → Except Err Bool := externalCheck env.isEthAddress

def tronCheck : JsValue → Except Err Bool := externalCheck env.isTronAddress

/-- The body of the inner loop. -/
def itemCheck (item : JsValue) : Except Err Bool := do
  if !(← item.read (js "enable")).isBoolean then
    return false
  if !(← env.isBCFAddress (← item.read (js "applyAddress"))) then
    return false
  let eth ← (← item.read (js "supportChain")).read (js "ETH")
  if eth.truthy then
    if !(← ethCheck env eth) then
      return false
  let bsc ← (← item.read (js "supportChain")).read (js "BSC")
  if bsc.truthy then
    if !(← ethCheck env bsc) then
      return false
  let tron ← (← item.read (js "supportChain")).read (js "TRON")
  if tron.truthy then
    if !(← tronCheck env tron) then
      return false
  return true

def validate (value : JsValue) : Except Err Bool :=
  value.entries.allM fun (chainName, assets) =>
    if !env.isInternalChainName chainName then pure false
    else
      assets.entries.allM fun (assetType, item) =>
        if !env.isInternalAssetType assetType then pure false
        else itemCheck env item

end RechargeClassVerify

end CotServer
