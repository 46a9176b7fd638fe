import CotServer.Model.Helper
import CotServer.Theory.PromiseAll

/-!
# `RechargeService.getContractPoolInfo`

The function starts `_func` for every asset of the config, waits for `Promise.all` of them and
returns the list to which each of them adds its item. The `try` around a start catches nothing that
`_func` throws later. No call is made twice for an asset, so that the answers are given by the
asset and the call; in which order they come is left open.
-/

namespace CotServer

open Async

/-- What `getEthContractBalance` and the other two return. -/
structure ContractBalance where
  balance : Nat
  decimal : Nat

structure AssetDetails where
  issuedAssetPrealnum : Nat
  remainAssetPrealnum : Nat

structure ExternalChainInfo where
  chainName : ExternalChainName
  assetType : JsString
  deriving DecidableEq

structure RechargeContractPoolItem where
  chainName : JsString
  assetType : JsString
  externalChainInfo : List ExternalChainInfo
  totalMinted : Nat
  totalCirculation : Nat
  totalBurned : Int
  totalStaked : Nat
  deriving DecidableEq

/-- The awaited calls; their arguments are those of `walletServerSdk`. -/
inductive ContractPoolOp where
  | getEthContractBalance (address contractAddress : JsString)
  | getBscContractBalance (address contractAddress : JsString)
  | getTronContractBalance (address contract : JsString)
  | getExternalBalance (chainName : ExternalChainName) (address : JsString)
  | getAssetDetails (chainName assetType : JsString)

abbrev ContractPoolOp.Ans : ContractPoolOp → Type
  | getEthContractBalance .. | getBscContractBalance .. | getTronContractBalance .. =>
    ContractBalance
  | getExternalBalance .. => Nat
  | getAssetDetails .. => AssetDetails

/-- `recharge[_c][_a]`. -/
structure ConfiguredAsset where
  chain : JsString
  asset : JsString
  item : RechargeItem

/-- The two `for … in` loops over the config. -/
def RechargeObject.assets (recharge : RechargeObject) : List ConfiguredAsset :=
  recharge.flatMap fun (chain, assets) => assets.map fun (asset, item) => ⟨chain, asset, item⟩

namespace RechargeService

/-- The store is `poolInfo`. -/
abbrev ContractPoolAsync := Async (List RechargeContractPoolItem) ContractPoolOp.Ans Err

variable (sdk : WalletSdk)

/-- The three balances of a chain; `decimal` is that of its own coin. -/
def contractBalance (chainName : ExternalChainName) (coinDecimal : Nat)
    (getContractBalance : JsString → JsString → ContractPoolAsync ContractBalance)
    (address : JsString) (contract : Option JsString) : ContractPoolAsync Nat :=
  tryCatch
    (do
      if truthy contract then
        let { balance, decimal } ← getContractBalance address (orUndefined contract)
        return sdk.transformDecimalToBCF decimal balance
      else
        let balance : Nat ← call (ContractPoolOp.getExternalBalance chainName address)
        return sdk.transformDecimalToBCF coinDecimal balance)
    fun _ => return 0

def getETHContractBalance : JsString → Option JsString → ContractPoolAsync Nat :=
  contractBalance sdk .ETH 18 fun address contractAddress =>
    call (ContractPoolOp.getEthContractBalance address contractAddress)

def getBSCContractBalance : JsString → Option JsString → ContractPoolAsync Nat :=
  contractBalance sdk .BSC 18 fun address contractAddress =>
    call (ContractPoolOp.getBscContractBalance address contractAddress)

def getTRONContractBalance : JsString → Option JsString → ContractPoolAsync Nat :=
  contractBalance sdk .TRON 6 fun address contract =>
    call (ContractPoolOp.getTronContractBalance address contract)

/-- The list of external chains and the total so far. -/
abbrev Staked := List ExternalChainInfo × Nat

/-- One of the three `if`s of `_func`. -/
def addStaked (chainName : ExternalChainName)
    (getBalance : JsString → Option JsString → ContractPoolAsync Nat)
    (supported : Option ExternalAssetInfoItem) (s : Staked) : ContractPoolAsync Staked :=
  match supported with
  | none => return s
  | some info => do
    let balance ← getBalance info.depositAddress info.contract
    return (s.1 ++ [{ chainName, assetType := info.assetType }], s.2 + balance)

/-- `_func`. -/
def func (item : RechargeItem) (chainName assetType : JsString) : ContractPoolAsync Unit := do
  let staked ← addStaked .ETH (getETHContractBalance sdk) item.supportChain.ETH ([], 0)
  let staked ← addStaked .BSC (getBSCContractBalance sdk) item.supportChain.BSC staked
  let (externalChainInfo, totalStaked) ←
    addStaked .TRON (getTRONContractBalance sdk) item.supportChain.TRON staked
  let result : AssetDetails ← call (ContractPoolOp.getAssetDetails chainName assetType)
  update fun poolInfo => poolInfo ++ [{
    chainName := item.chainName
    assetType := item.assetType
    externalChainInfo
    totalMinted := result.issuedAssetPrealnum
    totalCirculation := result.remainAssetPrealnum
    totalBurned := result.issuedAssetPrealnum - result.remainAssetPrealnum
    totalStaked }]

/-- The answers to the calls that `_func` makes for each asset. -/
abbrev ContractPoolAnswers := ConfiguredAsset → (op : ContractPoolOp) → Except Err op.Ans

/-- The functions that have been started, and `poolInfo`. -/
abbrev ContractPool :=
  PromisePool (List RechargeContractPoolItem) ContractPoolOp.Ans Err ConfiguredAsset

/-- `getContractPoolInfo` once it has read the config: all functions are started. -/
def getContractPoolInfo (recharge : RechargeObject) : ContractPool :=
  startAll (fun x => func sdk x.item x.item.chainName x.item.assetType) recharge.assets
    ⟨⟨[], []⟩, []⟩

/-- How the functions go on. -/
def contractPool (answers : ContractPoolAnswers) : System ContractPool (Label Empty Unit) :=
  (Program.together answers).system

/-- What `getContractPoolInfo` has returned or thrown. -/
def contractPoolResult (c : ContractPool) : Option (Except Err (List RechargeContractPoolItem)) :=
  c.promiseAll.map fun r => r.map fun _ => c.store.store

end RechargeService

end CotServer
