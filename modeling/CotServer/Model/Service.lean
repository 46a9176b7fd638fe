import CotServer.Model.Helper
import CotServer.Theory.Interleaving
import Mathlib.Algebra.Group.Nat.Defs

/-!
# The stores and the calls of the two services

A request of `RechargeService` or `RedemptionService` works on the database, on the wallet service
and on Redis. `ServiceStore` holds what the requests read and write there, `ServiceOp` is one
awaited call, and `ServiceOp.answer` says what a call can do: its effect, or any error and none.
-/

namespace CotServer

inductive TRANSACTION_LINK_TYPE where
  | RECHARGE_ORDER
  | REDEMPTION_ORDER
  deriving DecidableEq

/-- The order a wallet transaction belongs to; `mqId` is the same for the whole server. -/
structure TransParam where
  linkType : TRANSACTION_LINK_TYPE
  linkId : JsString
  deriving DecidableEq

/-- `transactionJSON` of an external transfer. -/
inductive ExternalTransJson where
  | eth (signTransData txHash : JsString)
  | tron (trans : TronTransaction)
  deriving DecidableEq

structure SaveExternalTransferReq where
  chainName : ExternalChainName
  transactionJSON : ExternalTransJson
  «from» : JsString
  «to» : JsString
  amount : Nat
  assetSymbol : JsString
  fee : JsString
  contract : Option JsString
  param : TransParam
  deriving DecidableEq

structure SaveInternalTransactionReq where
  chainName : JsString
  transactionJSON : DestroyAssetTransaction
  param : TransParam
  deriving DecidableEq

/-- A transaction saved in the wallet. -/
structure Saved (Req : Type) where
  txId : JsString
  req : Req

/-- The state that the two services share. -/
structure ServiceStore where
  /-- The `recharge` key of the stored config. -/
  config : RechargeObject
  rechargeOrders : List RechargeOrder := []
  redemptionOrders : List RedemptionOrder := []
  externalTransfers : List (Saved SaveExternalTransferReq) := []
  internalTransactions : List (Saved SaveInternalTransactionReq) := []
  /-- How many uuids have been generated. -/
  uuids : Nat := 0

/-- An awaited call. -/
inductive ServiceOp where
  | isRechargeDevTest
  | isRedemptionDevTest
  | getConfigByKeyForce
  | getContractTokenInfo (chainName : ExternalChainName) (contractAddress : JsString)
  | getExternalAccountBalance (chainName : ExternalChainName) (address contractAddress : JsString)
  | getExternalBalance (chainName : ExternalChainName) (address : JsString)
  | getInternalAccountBalance (chainName address assetType : JsString)
  | getInjectExternalAddress (chainName : ExternalChainName) (assetType : JsString)
  | saveExternalTransfer (req : SaveExternalTransferReq)
  | saveInternalTransaction (req : SaveInternalTransactionReq)
  | findOneRechargeOrder (internalAddress : JsString) (rechargeType : RECHARGE_TYPE)
  | saveRechargeOrder (order : RechargeOrder)
  | saveRedemptionOrder (order : RedemptionOrder)

abbrev ServiceOp.Ans : ServiceOp → Type
  | isRechargeDevTest | isRedemptionDevTest => Bool
  | getConfigByKeyForce => RechargeObject
  | getContractTokenInfo .. => ContractTokenInfo
  | getExternalAccountBalance .. | getExternalBalance .. | getInternalAccountBalance .. => Nat
  | getInjectExternalAddress .. | saveExternalTransfer .. | saveInternalTransaction .. => JsString
  | findOneRechargeOrder .. => Option RechargeOrder
  | saveRechargeOrder .. | saveRedemptionOrder .. => Unit

/-- What the surroundings choose about a call. -/
inductive ServiceChoice where
  | fails (e : Err)
  | done
  | tokenInfo (info : ContractTokenInfo)
  | amount (n : Nat)
  | text (s : JsString)

/-- The SDK, the uuid generator, and the development switches. -/
structure ServiceEnv where
  sdk : WalletSdk
  uuid : Nat → JsString
  uuid_injective : Function.Injective uuid
  /-- `CommonHelper.random(1, 10)`, at most called once between two uuids. -/
  random : Nat → Nat
  rechargeDevTest : Bool
  redemptionDevTest : Bool

/-- `Number(n)` is finite. The largest number is `(2 ^ 53 - 1) * 2 ^ 971`; half a step above it is
rounded to infinity. -/
def numberFinite (n : Int) : Prop := n.natAbs >>> 970 < 2 ^ 54 - 1

instance (n : Int) : Decidable (numberFinite n) := inferInstanceAs (Decidable (_ < _))

/-- An unsigned column takes `Number(numerator) / Number(denominator)`: it is neither negative nor
infinite, and a number. Over an infinite denominator it is zero. -/
def Fraction.Unsigned (f : Fraction) : Prop :=
  f.denominator ≠ 0 ∧ numberFinite f.numerator ∧
    (0 ≤ f.numerator * f.denominator ∨ ¬ numberFinite f.denominator)

instance (f : Fraction) : Decidable f.Unsigned := inferInstanceAs (Decidable (_ ∧ _ ∧ (_ ∨ _)))

/-- The unsigned columns of `payment_redemption_order` take the numbers of the order; the database
refuses a row that is out of their range. The ratio of an order whose fees have been taken off is
below one and far from the upper limit of its column. -/
def RedemptionOrder.FitsColumns (order : RedemptionOrder) : Prop :=
  order.redemptionAmount < 2 ^ 64 ∧ order.redemptionRatio.Unsigned ∧
    0 ≤ order.redemptionFee ∧ order.redemptionFee.toNat < 2 ^ 64

instance (order : RedemptionOrder) : Decidable order.FitsColumns :=
  inferInstanceAs (Decidable (_ ∧ _ ∧ _ ∧ _))

/-- The answer to a call. A call that throws has no effect. -/
def ServiceOp.answer (env : ServiceEnv) (op : ServiceOp) (choice : ServiceChoice)
    (s : ServiceStore) : Option (Except Err op.Ans × ServiceStore) :=
  match choice with
  | .fails e => some (.error e, s)
  | choice =>
    match op, choice with
    | isRechargeDevTest, .done => some (.ok env.rechargeDevTest, s)
    | isRedemptionDevTest, .done => some (.ok env.redemptionDevTest, s)
    | getConfigByKeyForce, .done => some (.ok s.config, s)
    | getContractTokenInfo .., .tokenInfo info => some (.ok info, s)
    | getExternalAccountBalance .., .amount n => some (.ok n, s)
    | getExternalBalance .., .amount n => some (.ok n, s)
    | getInternalAccountBalance .., .amount n => some (.ok n, s)
    | getInjectExternalAddress .., .text address => some (.ok address, s)
    | saveExternalTransfer req, .text txId =>
      some (.ok txId, { s with externalTransfers := s.externalTransfers ++ [⟨txId, req⟩] })
    | saveInternalTransaction req, .text txId =>
      some (.ok txId, { s with internalTransactions := s.internalTransactions ++ [⟨txId, req⟩] })
    | findOneRechargeOrder internalAddress rechargeType, .done =>
      some (.ok (s.rechargeOrders.find? fun order =>
        order.internalAddress = internalAddress ∧ order.rechargeType = rechargeType), s)
    | saveRechargeOrder order, .done =>
      some (.ok (), { s with rechargeOrders := s.rechargeOrders ++ [order] })
    | saveRedemptionOrder order, .done =>
      if order.FitsColumns then
        some (.ok (), { s with redemptionOrders := s.redemptionOrders ++ [order] })
      else none
    | _, _ => none

/-- The answers a call can get. -/
def ServiceEnv.answers (env : ServiceEnv) (op : ServiceOp) (s : ServiceStore)
    (r : Except Err op.Ans) (s' : ServiceStore) : Prop :=
  ∃ choice, op.answer env choice s = some (r, s')

/-- A token service that always says the same about a contract: only that can be chosen. -/
def ServiceOp.answerWith (tokenInfo : ExternalChainName → JsString → ContractTokenInfo)
    (env : ServiceEnv) (op : ServiceOp) (choice : ServiceChoice) (s : ServiceStore) :
    Option (Except Err op.Ans × ServiceStore) :=
  match op, choice with
  | getContractTokenInfo chainName contractAddress, .tokenInfo _ =>
    some (.ok (tokenInfo chainName contractAddress), s)
  | op, choice => op.answer env choice s

/-- The answers a call can get when `tokenInfo` is the token service. -/
def ServiceEnv.answersWith (env : ServiceEnv)
    (tokenInfo : ExternalChainName → JsString → ContractTokenInfo) (op : ServiceOp)
    (s : ServiceStore) (r : Except Err op.Ans) (s' : ServiceStore) : Prop :=
  ∃ choice, op.answerWith tokenInfo env choice s = some (r, s')

/-- An async function of a service. -/
abbrev Service := Async ServiceStore ServiceOp.Ans Err

namespace Service

open Async

def isRechargeDevTest : Service Bool := call ServiceOp.isRechargeDevTest

def isRedemptionDevTest : Service Bool := call ServiceOp.isRedemptionDevTest

/-- `getConfigByKeyForce("recharge")`. -/
def getConfigByKeyForce : Service RechargeObject := call ServiceOp.getConfigByKeyForce

def getContractTokenInfo (chainName : ExternalChainName) (contractAddress : JsString) :
    Service ContractTokenInfo :=
  call (ServiceOp.getContractTokenInfo chainName contractAddress)

/-- The balance in a contract when there is one, the balance of the main coin otherwise. -/
def externalBalance (chainName : ExternalChainName) (address : JsString)
    (contractAddress : Option JsString) : Service Nat :=
  if truthy contractAddress then
    call (ServiceOp.getExternalAccountBalance chainName address (orUndefined contractAddress))
  else
    call (ServiceOp.getExternalBalance chainName address)

def getInternalAccountBalance (chainName address assetType : JsString) : Service Nat :=
  call (ServiceOp.getInternalAccountBalance chainName address assetType)

def getInjectExternalAddress (chainName : ExternalChainName) (assetType : JsString) :
    Service JsString :=
  call (ServiceOp.getInjectExternalAddress chainName assetType)

def saveExternalTransfer (req : SaveExternalTransferReq) : Service JsString :=
  call (ServiceOp.saveExternalTransfer req)

def saveInternalTransaction (req : SaveInternalTransactionReq) : Service JsString :=
  call (ServiceOp.saveInternalTransaction req)

def findOneRechargeOrder (internalAddress : JsString) (rechargeType : RECHARGE_TYPE) :
    Service (Option RechargeOrder) :=
  call (ServiceOp.findOneRechargeOrder internalAddress rechargeType)

def saveRechargeOrder (order : RechargeOrder) : Service Unit :=
  call (ServiceOp.saveRechargeOrder order)

def saveRedemptionOrder (order : RedemptionOrder) : Service Unit :=
  call (ServiceOp.saveRedemptionOrder order)

/-- `CommonHelper.getUuid()`, also the `entityId` of a new order. -/
def getUuid (env : ServiceEnv) : Service JsString := do
  let s ← store
  update fun s => { s with uuids := s.uuids + 1 }
  return env.uuid s.uuids

/-- `CommonHelper.random(1, 10)`. -/
def random (env : ServiceEnv) : Service Nat := do
  let s ← store
  return env.random s.uuids

end Service

end CotServer
