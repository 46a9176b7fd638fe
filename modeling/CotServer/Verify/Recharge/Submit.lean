import CotServer.Model.Sample
import CotServer.Verify.Service

/-!
# The transaction that is validated and the one that is submitted

`getExternalChainDetail` decodes one entry of the request (`FromTrJson.validated`), and
`createExternalTrans` chooses again which entry it hands to the wallet. Both prefer `eth` to `bsc`
to the TRON entries, but they order the two TRON entries differently.
-/

namespace CotServer

open Async Service RechargeService

/-- An entry of the external transactions of a request. -/
inductive FromTrEntry where
  | eth (tr : EthTrJson)
  | bsc (tr : EthTrJson)
  | tron (tr : TronTransaction)

/-- What the SDK decodes from the entry. -/
def FromTrEntry.decode (sdk : WalletSdk) : FromTrEntry → Except Err ExternalTransDetail
  | eth tr => sdk.getEthTransDetail tr.signTransData
  | bsc tr => sdk.getBscTransDetail tr.signTransData
  | tron tr => sdk.getTronTransDetail tr

/-- The entry as a transaction for the wallet. -/
def FromTrEntry.toTransJson (txHash : JsString) : FromTrEntry → ExternalTransJson
  | eth tr => .eth tr.signTransData txHash
  | bsc tr => .eth tr.signTransData txHash
  | tron tr => .tron tr

/-- The entry that the checks of a request look at. -/
def FromTrJson.validated (fromTrJson : FromTrJson) : Option FromTrEntry :=
  fromTrJson.eth.map .eth <|> fromTrJson.bsc.map .bsc <|> fromTrJson.trc20.map .tron <|>
    fromTrJson.tron.map .tron

/-- Without an `eth` and a `bsc` entry, two different transactions are sent as `trc20` and
`tron`. -/
def FromTrJson.TwoTron (fromTrJson : FromTrJson) : Prop :=
  fromTrJson.eth = none ∧ fromTrJson.bsc = none ∧
    ∃ trc20 tron, fromTrJson.trc20 = some trc20 ∧ fromTrJson.tron = some tron ∧ trc20 ≠ tron

variable {env : ServiceEnv} {sdk : WalletSdk} {s s' : ServiceStore} {fromTrJson : FromTrJson}

/-- The detail of a request is decoded from its validated entry. -/
theorem getExternalChainDetail_decodes {rechargeItem : RechargeItem} {detail : ExternalTransDetail}
    (h : OrderHelper.getExternalChainDetail sdk fromTrJson rechargeItem = .ok (some detail)) :
    ∃ entry, fromTrJson.validated = some entry ∧ entry.decode sdk = .ok detail := by
  have hdecode : ∀ {c : Bool} {x : Except Err ExternalTransDetail} {e : Err},
      (if c = true then some <$> x else throw e) = .ok (some detail) → x = .ok detail := by
    intro c x e hc
    cases c <;> cases x <;> cases hc
    rfl
  obtain ⟨_ | eth, _ | bsc, _ | trc20, _ | tron⟩ := fromTrJson
  · cases h
  all_goals exact ⟨_, rfl, hdecode h⟩

/-- The chain of the detail is the chain of the entry. -/
theorem FromTrEntry.decode_chainName {entry : FromTrEntry} {detail : ExternalTransDetail}
    (h : entry.decode sdk = .ok detail) :
    detail.chainName = match entry with
      | .eth _ => .ETH
      | .bsc _ => .BSC
      | .tron _ => .TRON := by
  cases entry with
  | eth tr => exact sdk.eth_chainName _ _ h
  | bsc tr => exact sdk.bsc_chainName _ _ h
  | tron tr => exact sdk.tron_chainName _ _ h

/-- `createExternalTrans` finds a transaction for every validated entry, and it is that entry
unless there are two for TRON. -/
theorem getTrJson_validated {entry : FromTrEntry} (hentry : fromTrJson.validated = some entry)
    {detail : ExternalTransDetail} (hdetail : entry.decode sdk = .ok detail) (txHash : JsString) :
    ∃ json, getTrJson fromTrJson detail.chainName txHash = .ok json ∧
      (json = entry.toTransJson txHash ↔ ¬ fromTrJson.TwoTron) := by
  rw [FromTrEntry.decode_chainName hdetail]
  obtain ⟨_ | eth, _ | bsc, _ | trc20, _ | tron⟩ := fromTrJson <;> cases hentry <;>
    exact ⟨_, rfl, by simp [FromTrEntry.toTransJson, FromTrJson.TwoTron, eq_comm]⟩

/-- The request that is handed to the wallet. -/
def transferReq (orderId : JsString) (detail : RechargeTransDetail) (json : ExternalTransJson) :
    SaveExternalTransferReq :=
  { chainName := detail.fromDetail.chainName
    transactionJSON := json
    «from» := detail.fromDetail.«from»
    «to» := detail.fromDetail.«to»
    amount := detail.fromDetail.amount
    assetSymbol := detail.fromAssetSymbol
    fee := js "0"
    contract := detail.fromDetail.contractAddress
    param := { linkType := .RECHARGE_ORDER, linkId := orderId } }

/-- What `createExternalTrans` hands to the wallet, and when. -/
theorem createExternalTrans_handsOut {orderId : JsString} {detail : RechargeTransDetail}
    {req : SaveExternalTransferReq} :
    (createExternalTrans env orderId fromTrJson detail).HandsOut env.answers s
        (.saveExternalTransfer req) ↔
      env.rechargeDevTest = false ∧ ∃ json, getTrJson fromTrJson detail.fromDetail.chainName
        detail.fromDetail.txHash = .ok json ∧ req = transferReq orderId detail json := by
  rw [createExternalTrans, handsOut_bind]
  constructor
  · rintro (h | ⟨b, t, hb, h⟩)
    · cases handsOut_call.1 h
    · obtain ⟨rfl, rfl⟩ := answers_devTest.1 (runs_call.1 hb)
      cases hdev : env.rechargeDevTest with
      | true =>
        rw [hdev, if_pos rfl] at h
        exact absurd h id
      | false =>
        rw [hdev, if_neg (by decide), handsOut_bind] at h
        obtain h | ⟨json, t', hrun, h⟩ := h
        · exact absurd h not_handsOut_settle
        · obtain ⟨hjson, rfl⟩ := runs_settle.1 hrun
          cases handsOut_call.1 h
          exact ⟨rfl, json, hjson.symm, rfl⟩
  · rintro ⟨hdev, json, hjson, rfl⟩
    refine .inr ⟨false, s, runs_call.2 (answers_devTest.2 ⟨hdev.symm, rfl⟩), ?_⟩
    rw [if_neg (by decide), handsOut_bind]
    refine .inr ⟨json, s, runs_settle.2 ⟨hjson.symm, rfl⟩, ?_⟩
    exact handsOut_call.2 rfl

/-- Every transaction that `createExternalTrans` hands to the wallet is the validated entry. -/
def SubmitsValidated (env : ServiceEnv) (s : ServiceStore) (orderId : JsString)
    (fromTrJson : FromTrJson) (detail : RechargeTransDetail) : Prop :=
  ∀ req, (createExternalTrans env orderId fromTrJson detail).HandsOut env.answers s
      (.saveExternalTransfer req) →
    ∃ entry, fromTrJson.validated = some entry ∧ entry.decode env.sdk = .ok detail.fromDetail ∧
      req.transactionJSON = entry.toTransJson detail.fromDetail.txHash

/-- The submitted transaction is the validated one for exactly the requests that do not carry two
TRON transactions. -/
theorem submitsValidated_iff (orderId : JsString) (rechargeItem : RechargeItem)
    (detail : RechargeTransDetail)
    (h : OrderHelper.getExternalChainDetail env.sdk fromTrJson rechargeItem =
      .ok (some detail.fromDetail)) :
    SubmitsValidated env s orderId fromTrJson detail ↔
      ¬ (env.rechargeDevTest = false ∧ fromTrJson.TwoTron) := by
  obtain ⟨entry, hentry, hdecode⟩ := getExternalChainDetail_decodes h
  obtain ⟨json, hjson, hiff⟩ := getTrJson_validated hentry hdecode detail.fromDetail.txHash
  constructor
  · rintro hsubmit ⟨hdev, htwo⟩
    obtain ⟨entry', hentry', _, heq⟩ := hsubmit (transferReq orderId detail json)
      (createExternalTrans_handsOut.2 ⟨hdev, json, hjson, rfl⟩)
    cases hentry.symm.trans hentry'
    exact hiff.1 heq htwo
  · intro hnot req hreq
    obtain ⟨hdev, json', hjson', rfl⟩ := createExternalTrans_handsOut.1 hreq
    cases hjson.symm.trans hjson'
    exact ⟨entry, hentry, hdecode, hiff.2 fun htwo => hnot ⟨hdev, htwo⟩⟩

/-- One TRON transaction alone is validated and submitted. -/
theorem submitsValidated_trc20 :
    SubmitsValidated Sample.env { config := Sample.config } (js "order")
      ⟨none, none, some ⟨js "TDeposit"⟩, none⟩
      { fromDetail := Sample.detail .TRON (js "TDeposit"), toDetail := Sample.message
        fromAssetSymbol := js "TRX", fromDecimals := 6, toAmount := 150000000 } := by
  refine (submitsValidated_iff (js "order") Sample.item _ rfl).2 ?_
  rintro ⟨_, _, _, _, _, _, h, _⟩
  cases h

/-- With a transfer to the deposit address as `trc20` and another transaction as `tron`, the first
is validated and the second submitted. -/
theorem not_submitsValidated_twoTron :
    ¬ ∀ (env : ServiceEnv) (s : ServiceStore) (orderId : JsString) (fromTrJson : FromTrJson)
      (rechargeItem : RechargeItem) (detail : RechargeTransDetail),
      OrderHelper.getExternalChainDetail env.sdk fromTrJson rechargeItem =
          .ok (some detail.fromDetail) →
        SubmitsValidated env s orderId fromTrJson detail := by
  intro h
  let fromTrJson : FromTrJson := ⟨none, none, some ⟨js "TDeposit"⟩, some ⟨js "TOther"⟩⟩
  let detail : RechargeTransDetail :=
    { fromDetail := Sample.detail .TRON (js "TDeposit"), toDetail := Sample.message
      fromAssetSymbol := js "TRX", fromDecimals := 6, toAmount := 150000000 }
  have hsubmit := h Sample.env { config := Sample.config } (js "order") fromTrJson Sample.item
    detail rfl
  obtain ⟨entry, hentry, _, heq⟩ := hsubmit (transferReq (js "order") detail (.tron ⟨js "TOther"⟩))
    (createExternalTrans_handsOut.2 ⟨rfl, _, rfl, rfl⟩)
  cases hentry
  exact absurd heq (by decide)

end CotServer
