import CotServer.Theory.JsString

/-!
# Data of the server

The types of `packages/core` that the recharge and redemption code reads, and the parts of the
wallet SDK's types that it uses. Optional fields are `Option`; dictionaries are association lists
in key order. Amounts are decimal strings in the source and are only ever read through `BigInt`,
so they are numbers here.
-/

namespace CotServer

/-- Thrown values: an `Error`, or a `ResponseError` made from an `ErrorCode`. -/
inductive Err where
  | error (message : JsString)
  | response (code : Nat) (message : JsString)
  deriving DecidableEq

namespace ErrorCode

def RECHARGE_TRAN_SIGN_MISSING : Err :=
  .response 10301 (js "wallet recharge exception, transaction sign is missing")

def RECHARGE_NOT_SUPPORT_CHAIN : Err :=
  .response 10302 (js "wallet recharge exception, not support chain")

def AUTH_INFO_EXCEPTION_INVALID_ADDRESS : Err :=
  .response 10101 (js "auth info error, invalid address")

end ErrorCode

/-! ## Dictionaries -/

abbrev Dict (α : Type) := List (JsString × α)

/-- `dict[key]`. -/
def Dict.get {α : Type} (d : Dict α) (key : JsString) : Option α :=
  (d.find? fun e => e.1 == key).map (·.2)

/-- A string field as a condition: absent and empty are both false. -/
def truthy : Option JsString → Bool
  | none => false
  | some s => !s.isEmpty

/-! ## Chains and configuration -/

/-- A name that is none of the three the server knows. -/
abbrev OtherChainName :=
  {name : JsString // name ≠ js "ETH" ∧ name ≠ js "BSC" ∧ name ≠ js "TRON"}

inductive ExternalChainName where
  | ETH
  | BSC
  | TRON
  | other (name : OtherChainName)
  deriving DecidableEq

def ExternalChainName.toJs : ExternalChainName → JsString
  | ETH => js "ETH"
  | BSC => js "BSC"
  | TRON => js "TRON"
  | other name => name.1

structure ExternalAssetInfoItem where
  enable : Bool
  contract : Option JsString
  depositAddress : JsString
  assetType : JsString
  deriving DecidableEq

structure SupportChain where
  ETH : Option ExternalAssetInfoItem
  BSC : Option ExternalAssetInfoItem
  TRON : Option ExternalAssetInfoItem
  deriving DecidableEq

/-- `supportChain[chainName]`. -/
def SupportChain.get (c : SupportChain) : ExternalChainName → Option ExternalAssetInfoItem
  | .ETH => c.ETH
  | .BSC => c.BSC
  | .TRON => c.TRON
  | .other _ => none

structure RedemptionConfig where
  enable : Bool
  min : Int
  max : Int
  fee : Dict Int
  radioFee : JsString
  deriving DecidableEq

structure RechargeItem where
  enable : Bool
  chainName : JsString
  assetType : JsString
  applyAddress : JsString
  supportChain : SupportChain
  redemption : RedemptionConfig
  deriving DecidableEq

/-- Internal chain name, then asset type. -/
abbrev RechargeObject := Dict (Dict RechargeItem)

/-! ## Transactions -/

/-- What the SDK decodes from an external transaction. -/
structure ExternalTransDetail where
  chainName : ExternalChainName
  «from» : JsString
  «to» : JsString
  amount : Nat
  contractAddress : Option JsString
  txHash : JsString
  deriving DecidableEq

structure EthTrJson where
  signTransData : JsString
  deriving DecidableEq

/-- A TRON or TRC20 transaction; the server passes it on without looking inside. -/
structure TronTransaction where
  raw : JsString
  deriving DecidableEq

/-- The external transactions of a recharge request. -/
structure FromTrJson where
  eth : Option EthTrJson
  bsc : Option EthTrJson
  trc20 : Option TronTransaction
  tron : Option TronTransaction
  deriving DecidableEq

/-- The signed part of a recharge request: who is to receive which asset. -/
structure RechargeV2ToTrInfoData where
  chainName : JsString
  address : JsString
  assetType : JsString
  timestamp : Rat
  deriving DecidableEq

/-- The fields of a recharge order that are taken from the message. -/
structure RechargeTarget where
  internalChain : JsString
  internalAddress : JsString
  rechargeAssetType : JsString
  deriving DecidableEq

def RechargeV2ToTrInfoData.target (m : RechargeV2ToTrInfoData) : RechargeTarget :=
  ⟨m.chainName, m.address, m.assetType⟩

/-- Details of a recharge, `COTServer.Recharge.TransDetail`. -/
structure RechargeTransDetail where
  fromDetail : ExternalTransDetail
  toDetail : RechargeV2ToTrInfoData
  fromAssetSymbol : JsString
  fromDecimals : Nat
  toAmount : Nat

structure ContractTokenInfo where
  symbol : JsString
  decimals : Nat

/-- The remark of a redemption: where the payout goes. -/
structure TransRemark where
  chainName : Option ExternalChainName
  address : Option JsString
  assetType : Option JsString
  deriving DecidableEq

structure DestroyAssetTransaction where
  raw : JsString
  remark : TransRemark
  deriving DecidableEq

/-- `fromTrJson.bcf` of a redemption request. -/
structure BcfTrJson where
  chainName : JsString
  trJson : DestroyAssetTransaction
  deriving DecidableEq

structure RedemptionV2Tr where
  bcf : Option BcfTrJson
  deriving DecidableEq

/-- What the SDK decodes from an internal transaction. -/
structure InternalTransDetail where
  chainName : JsString
  «from» : JsString
  «to» : JsString
  amount : Nat
  assetType : JsString
  deriving DecidableEq

structure ToTrDetail where
  chainName : ExternalChainName
  address : JsString
  assetType : JsString
  contractAddress : Option JsString
  deriving DecidableEq

structure Fraction where
  numerator : Int
  denominator : Int
  deriving DecidableEq

/-- Details of a redemption, `COTServer.Redemption.TransDetail`. -/
structure RedemptionTransDetail where
  fromDetail : InternalTransDetail
  toDetail : ToTrDetail
  toAmount : Nat
  redemptionRatio : Fraction
  redemptionFee : Int

/-! ## Orders -/

inductive RECHARGE_ORDER_STATE_ID where
  | INIT
  | EXTERNAL_WAIT_ON_CHAIN
  | EXTERNAL_ON_CHAIN_FAIL
  | INTERNAL_WAIT_ON_CHAIN
  | INTERNAL_ON_CHAIN_FAIL
  | SUCCESS
  deriving DecidableEq

inductive RECHARGE_TYPE where
  | ISSUE
  | AIRDROP
  | other (code : Int)
  deriving DecidableEq

/-- The row of a recharge order. An airdrop has no external side. -/
structure RechargeOrder where
  entityId : JsString
  state : RECHARGE_ORDER_STATE_ID
  walletAddress : Option JsString := none
  walletChain : Option ExternalChainName := none
  walletTxId : JsString
  walletAmount : Option Nat := none
  walletAsset : Option JsString := none
  walletDecimals : Option Nat := none
  contractAddress : Option JsString := none
  internalChain : JsString
  internalAddress : JsString
  rechargeTxId : JsString
  rechargeAmount : Nat
  rechargeTxOnChain : Bool := false
  rechargeAssetType : JsString
  rechargeType : RECHARGE_TYPE
  deriving DecidableEq

def RechargeOrder.target (order : RechargeOrder) : RechargeTarget :=
  ⟨order.internalChain, order.internalAddress, order.rechargeAssetType⟩

inductive REDEMPTION_ORDER_STATE_ID where
  | INIT
  | INTERNAL_WAIT_ON_CHAIN
  | INTERNAL_ON_CHAIN_FAIL
  | EXTERNAL_WAIT_ON_CHAIN
  | EXTERNAL_ON_CHAIN_FAIL
  | SUCCESS
  deriving DecidableEq

inductive REDEMPTION_TYPE where
  | TRANSFER
  | DESTROY
  deriving DecidableEq

structure RedemptionOrder where
  entityId : JsString
  state : REDEMPTION_ORDER_STATE_ID
  internalChain : JsString
  internalAddress : JsString
  redemptionTxId : JsString
  redemptionAmount : Nat
  redemptionAssetType : JsString
  redemptionRatio : Fraction
  redemptionFee : Int
  walletAddress : JsString
  walletChain : ExternalChainName
  walletTxId : JsString
  contractAddress : Option JsString
  walletAmount : Nat
  walletAsset : JsString
  redemptionType : REDEMPTION_TYPE
  deriving DecidableEq

inductive ORDER_TYPE where
  | RECHARGE
  | REDEMPTION
  deriving DecidableEq

end CotServer
