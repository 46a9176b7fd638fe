import CotServer.Model.Config.Platform
import CotServer.Model.Order.Worker

/-!
# A concrete SDK

A small instance of the SDK and of the environments of the services and the order worker, on which
the model computes.
Every transaction decodes to a transfer of `1500000` units from `0xsender`; the recipient, and the
contract where there is one, are the text of the transaction before and after the first `/`.
-/

namespace CotServer.Sample

def detail (chainName : ExternalChainName) (text : JsString) : ExternalTransDetail :=
  { chainName
    «from» := js "0xsender"
    «to» := text.takeWhile (· ≠ 0x2F)
    amount := 1500000
    contractAddress :=
      match text.dropWhile (· ≠ 0x2F) with
      | [] => none
      | _ :: contract => some contract
    txHash := js "hash of " ++ text }

def toLowerCase (s : JsString) : JsString :=
  s.map fun c => if 0x41 ≤ c ∧ c ≤ 0x5A then c + 32 else c

/-- Multiplies or truncates by the power of ten between the two numbers of decimals. -/
def rescale (decimals toDecimals amount : Nat) : Nat :=
  amount * Nat.pow 10 (toDecimals - decimals) / Nat.pow 10 (decimals - toDecimals)

def sdk : WalletSdk where
  names :=
    { PMCHAIN := js "PMCHAIN", BIWMETA := js "BIWMETA", PMC := js "PMC", BIW := js "BIW"
      BNB := js "BNB", ETH := js "ETH", TRX := js "TRX" }
  toLowerCase := toLowerCase
  getEthTransDetail text := .ok (detail .ETH text)
  getBscTransDetail text := .ok (detail .BSC text)
  getTronTransDetail trans := .ok (detail .TRON trans.raw)
  getDestroyAssetTransDetail chainName trJson :=
    .ok { chainName, «from» := js "bSender", «to» := trJson.raw, amount := 1500000
          assetType := js "USDT" }
  isEthAddress address := address.take 2 = js "0x"
  isTronAddress address := address.take 1 = js "T"
  transformDecimalToBCF decimals amount := rescale decimals 8 amount
  transformDecimalToContract decimals amount := rescale 8 decimals amount
  -- the fee ratios of the samples are all "0.01"
  toFraction _ := .ok { numerator := 1, denominator := 100 }
  eth_chainName := by rintro t d ⟨⟩; rfl
  bsc_chainName := by rintro t d ⟨⟩; rfl
  tron_chainName := by rintro t d ⟨⟩; rfl

def uuid (n : Nat) : JsString := js "uuid" ++ List.replicate n 0x2B

theorem uuid_injective : Function.Injective uuid := by
  intro m n h
  simpa [uuid] using congrArg List.length h

def env : ServiceEnv where
  sdk := sdk
  uuid := uuid
  uuid_injective := uuid_injective
  random _ := 5
  rechargeDevTest := false
  redemptionDevTest := false

/-- A token service that knows one token. -/
def tokenInfo (_ : ExternalChainName) (_ : JsString) : ContractTokenInfo := ⟨js "USDT", 6⟩

/-- USDT on BIWMETA, backed by a contract on ETH and BSC and by the main coin on TRON. -/
def item : RechargeItem where
  enable := true
  chainName := js "BIWMETA"
  assetType := js "USDT"
  applyAddress := js "bApply"
  supportChain :=
    { ETH := some ⟨true, some (js "0xUSDT"), js "0xDeposit", js "USDT"⟩
      BSC := some ⟨true, some (js "0xUSDT"), js "0xDeposit", js "USDT"⟩
      TRON := some ⟨true, none, js "TDeposit", js "TRX"⟩ }
  redemption :=
    { enable := true, min := 1, max := 1000000000
      fee := [(js "ETH", 100), (js "BSC", 100), (js "TRON", 100)]
      radioFee := js "0.01" }

def config : RechargeObject := [(js "BIWMETA", [(js "USDT", item)])]

def message : RechargeV2ToTrInfoData :=
  { chainName := js "BIWMETA", address := js "bReceiver", assetType := js "USDT", timestamp := 0 }

/-! ## Configs -/

def account : WalletAccount :=
  { secret := js "secret", address := js "TDeposit", privateKey := js "private"
    publicKey := js "public" }

/-- Every service accepts, and there is one account and one token. -/
def services : Services where
  verifyKey text := .ok text
  validate _ := .ok []
  getAssetDetails _ _ := .ok ()
  getContractTokenInfo _ _ := .ok ⟨js "USDT", 6⟩
  initExternalAccount _ _ := .ok account
  addressToHex address := .ok address
  serverPublicKey := .ok (js "public")
  encryptData data := .ok data
  injectRWAddress _ _ := .ok true
  injectExternalAddress _ _ _ := .ok true

def verifyEnv : VerifyEnv where
  errorsText _ := []
  isInternalChainName chainName := chainName = js "BIWMETA"
  isInternalAssetType assetType := assetType = js "USDT"
  isBCFAddress _ := .ok true
  isEthAddress _ := .ok true
  isTronAddress _ := .ok true

def configEnv : ConfigEnv where
  parseConfig _ := .ok { recharge := some config }
  verify := verifyEnv
  dev := false

/-- Encryption puts a mark before the mnemonic. -/
def accountEnv : AccountEnv where
  clientPublicKey := js "client"
  secretKey := js "server"
  asymmetricEncrypt _ data _ _ := 0x23 :: data
  asymmetricDecrypt data _ _ :=
    match data with
    | 0x23 :: mnemonic => some mnemonic
    | _ => none
  generateMnemonic n := js "mnemonic" ++ List.replicate n 0x2B
  fromPhrase phrase := .ok ⟨js "0x" ++ phrase, phrase, phrase⟩
  recoverAccount phrase := .ok ⟨js "T" ++ phrase, phrase, phrase⟩
  decrypt_encrypt _ _ := rfl

def platformEnv : PlatformEnv where
  config := configEnv
  account := accountEnv
  verifyKey text := .ok text
  parseMnemonic text := .ok text
  getContractTokenInfo _ _ := ⟨js "USDT", 6⟩
  addressToHex address := js "41" ++ address.drop 1
  encryptData data := 0x23 :: data

/-! ## Orders -/

def orderEnv : OrderEnv where
  devTest := false
  looksBeforeRead := true
  looksAfterRead := true
  INTERNAL_TRANS_RETRY_INVERVAL := 1000
  INTERNAL_TRANS_RETRY_MAX_NUM := 3
  EXTERNAL_TRANS_RETRY_INVERVAL := 1000
  EXTERNAL_TRANS_RETRY_MAX_NUM := 3
  EXTERNAL_TRANS_INIT := js "1"
  INTERNAL_TRANS_INIT := js "1"

def rechargeOrder (rechargeType : RECHARGE_TYPE) : RechargeOrder where
  entityId := js "order"
  state := .INIT
  walletTxId := js "deposit"
  internalChain := js "BIWMETA"
  internalAddress := js "bReceiver"
  rechargeTxId := js "order"
  rechargeAmount := 1000000
  rechargeAssetType := js "USDT"
  rechargeType := rechargeType

def redemptionOrder : RedemptionOrder where
  entityId := js "order"
  state := .INIT
  internalChain := js "BIWMETA"
  internalAddress := js "bSender"
  redemptionTxId := js "burn"
  redemptionAmount := 1500000
  redemptionAssetType := js "USDT"
  redemptionRatio := { numerator := 1, denominator := 100 }
  redemptionFee := 100
  walletAddress := js "TReceiver"
  walletChain := .TRON
  walletTxId := js "order"
  contractAddress := none
  walletAmount := 1484900
  walletAsset := js "TRX"
  redemptionType := .DESTROY

end CotServer.Sample
