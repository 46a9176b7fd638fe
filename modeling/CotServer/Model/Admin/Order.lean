import CotServer.Model.Admin.User
import CotServer.Model.Helper

/-!
# Orders fixed by administrators

`fixRechargeOrder` and `fixRedemptionOrder` of `OrderController` and `OrderService`, and the system
of all requests of administrators. A fix is recorded as failed before it is made, and as successful
after it has returned.
-/

namespace CotServer

open Async

/-- `FixRechargeOrderReqDto` and `FixRedemptionOrderReqDto`. The bodies are not checked in the
source; here they have the types of the fields. -/
structure FixOrderReqDto where
  entityId : Option JsString
  fixType : Option Nat
  deriving DecidableEq

namespace FixOrderReqDto

/-- The fields that are there, in the order of the type. -/
def fields (dto : FixOrderReqDto) : List JsString :=
  (dto.entityId.map fun entityId => js "\"entityId\":" ++ JsString.quote entityId).toList ++
    (dto.fixType.map fun fixType => js "\"fixType\":" ++ jsNat fixType).toList

/-- `JSON.stringify(dto)`, for a body with the keys of the type, in this order, and no others. -/
def stringify (dto : FixOrderReqDto) : JsString :=
  js "\x7b" ++ List.intercalate (js ",") dto.fields ++ js "\x7d"

end FixOrderReqDto

def FIX_RECHARGE_ORDER_TYPE.RETRY_EXTERNAL_ON_CHAIN : Nat := 1

def FIX_RECHARGE_ORDER_TYPE.RETRY_INTERNAL_ON_CHAIN : Nat := 2

def FIX_REDEMPTION_ORDER_TYPE.RETRY_INTERNAL_ON_CHAIN : Nat := 1

def FIX_REDEMPTION_ORDER_TYPE.RETRY_EXTERNAL_ON_CHAIN : Nat := 2

/-- The path of the fix. -/
def ORDER_TYPE.api : ORDER_TYPE → JsString
  | RECHARGE => js "recharge/fix"
  | REDEMPTION => js "redemption/fix"

namespace OrderService

def retry (call : RetryCall) : AdminAsync Bool := Async.call (AdminOp.retry call)

/-- The retry that a fix stands for. -/
def rechargeRetry (dto : FixOrderReqDto) : Option RetryCall :=
  if dto.fixType = some FIX_RECHARGE_ORDER_TYPE.RETRY_EXTERNAL_ON_CHAIN then
    some (.rechargeExternalOnChain dto.entityId)
  else if dto.fixType = some FIX_RECHARGE_ORDER_TYPE.RETRY_INTERNAL_ON_CHAIN then
    some (.rechargeInternalOnChain dto.entityId)
  else none

def redemptionRetry (dto : FixOrderReqDto) : Option RetryCall :=
  if dto.fixType = some FIX_REDEMPTION_ORDER_TYPE.RETRY_INTERNAL_ON_CHAIN then
    some (.redemptionInternalOnChain dto.entityId)
  else if dto.fixType = some FIX_REDEMPTION_ORDER_TYPE.RETRY_EXTERNAL_ON_CHAIN then
    some (.redemptionExternalOnChain dto.entityId)
  else none

/-- `fixRechargeOrder` and `fixRedemptionOrder`, by what their `switch` finds. -/
def fix (found : Option RetryCall) (dto : FixOrderReqDto) : AdminAsync Bool :=
  match found with
  | some call => retry call
  | none => throw (.error (js "invaild " ++ orUndefined (dto.fixType.map jsNat)))

def fixRechargeOrder (dto : FixOrderReqDto) : AdminAsync Bool := fix (rechargeRetry dto) dto

def fixRedemptionOrder (dto : FixOrderReqDto) : AdminAsync Bool := fix (redemptionRetry dto) dto

/-- The retry that a fix of an order of the type stands for. -/
def retryOf : ORDER_TYPE → FixOrderReqDto → Option RetryCall
  | .RECHARGE => rechargeRetry
  | .REDEMPTION => redemptionRetry

end OrderService

namespace OrderController

variable (env : AdminEnv)

/-- The two fixes of the controller differ in the path and the service function. -/
def fixOrder (type : ORDER_TYPE) (authorization : Option JsString) (dto : FixOrderReqDto)
    (service : FixOrderReqDto → AdminAsync Bool) : AdminAsync Bool := do
  let auth ← AdminAuthorization true authorization
  let operateRecord ← UserService.saveOperateRecord env auth.loginName type.api dto.stringify
  let result ← service dto
  UserService.operateRecordSuccess operateRecord
  return result

def fixRechargeOrder (authorization : Option JsString) (dto : FixOrderReqDto) : AdminAsync Bool :=
  fixOrder env .RECHARGE authorization dto OrderService.fixRechargeOrder

def fixRedemptionOrder (authorization : Option JsString) (dto : FixOrderReqDto) : AdminAsync Bool :=
  fixOrder env .REDEMPTION authorization dto OrderService.fixRedemptionOrder

end OrderController

/-! ## The system of all requests -/

/-- Requests of administrators, with their headers. -/
inductive AdminRequest where
  | login (authorization : Option JsString) (dto : LoginReqDto)
  | createUser (authorization : Option JsString) (dto : CreateUserReqDto)
  | updateUser (authorization : Option JsString) (dto : UpdateUserReqDto)
  | fixRechargeOrder (authorization : Option JsString) (dto : FixOrderReqDto)
  | fixRedemptionOrder (authorization : Option JsString) (dto : FixOrderReqDto)

inductive AdminResponse where
  | login (res : AdminAuthInfo)
  | user (user : UserEntity)
  | flag (b : Bool)

namespace AdminRequest

/-- The handlers of `UserController` and `OrderController`. -/
def handler (env : AdminEnv) : AdminRequest → AdminAsync AdminResponse
  | login authorization dto => do
    let _ ← AdminAuthorization false authorization
    return .login (← UserService.login env dto)
  | createUser authorization dto => do
    let auth ← AdminAuthorization true authorization
    return .flag (← UserService.createUser env auth dto)
  | updateUser authorization dto => do
    let auth ← AdminAuthorization true authorization
    return .user (← UserService.updateUser env auth dto)
  | fixRechargeOrder authorization dto => do
    return .flag (← OrderController.fixRechargeOrder env authorization dto)
  | fixRedemptionOrder authorization dto => do
    return .flag (← OrderController.fixRedemptionOrder env authorization dto)

end AdminRequest

/-- Any number of requests, in any number of processes, interleaved at their awaits. -/
abbrev adminProgram (env : AdminEnv) :=
  Program.requests (AdminOp.answer env) (AdminRequest.handler env)

end CotServer
