import CotServer.Model.Helper
import CotServer.Theory.Interleaving
import Mathlib.Logic.Function.Basic

/-!
# External accounts

The part of `GlobalValueRedisRepository` that keeps the platform's external accounts: a map in each
worker process, and the encrypted mnemonics in Redis. Any number of calls run in any number of
workers, interleaved at their awaits.
-/

namespace CotServer

structure WalletAccount where
  secret : JsString
  address : JsString
  privateKey : JsString
  publicKey : JsString
  deriving DecidableEq

/-- An account as it is derived from its mnemonic. -/
structure DerivedKeys where
  address : JsString
  privateKey : JsString
  publicKey : JsString

/-- The key pair of the server is the same in all workers. Decryption inverts encryption for it. -/
structure AccountEnv where
  clientPublicKey : JsString
  secretKey : JsString
  asymmetricEncrypt : (nonce : Nat) → (data publicKey secretKey : JsString) → JsString
  asymmetricDecrypt : (data publicKey secretKey : JsString) → Option JsString
  generateMnemonic : Nat → JsString
  /-- `ethers.Wallet.fromPhrase`. -/
  fromPhrase : JsString → Except Err DerivedKeys
  recoverAccount : JsString → Except Err DerivedKeys
  decrypt_encrypt : ∀ nonce data,
    asymmetricDecrypt (asymmetricEncrypt nonce data clientPublicKey secretKey) clientPublicKey
      secretKey = some data

/-- A worker process. -/
abbrev Worker := Nat

/-- Redis and the maps of the workers. -/
structure AccountStore where
  /-- The hash `GLOBAL_VALUE_ENTITY_ID.ACCOUNT`. -/
  redis : JsString → Option JsString := fun _ => none
  externalkeypairMap : Worker → ExternalChainName → JsString → Option WalletAccount :=
    fun _ _ _ => none
  /-- How many mnemonics have been generated. -/
  generated : Nat := 0
  /-- The accounts that calls have returned. -/
  returned : List WalletAccount := []

inductive AccountOp where
  | getServerKeypair
  | getKeyValue (keyName : JsString)
  | setKeyValue (keyName value : JsString)
  | transformAccount (chainName : ExternalChainName) (secret : JsString)

abbrev AccountOp.Ans : AccountOp → Type
  | getServerKeypair => JsString
  | getKeyValue _ => Option JsString
  | setKeyValue .. => Unit
  | transformAccount .. => WalletAccount

inductive AccountChoice where
  | fails (e : Err)
  | done

/-- `__transformAccount`. -/
def AccountEnv.transformAccount (env : AccountEnv) (chainName : ExternalChainName)
    (secret : JsString) : Except Err WalletAccount :=
  match chainName with
  | .ETH | .BSC => do
    let ethAccount ← env.fromPhrase secret
    return { secret, address := ethAccount.address, privateKey := ethAccount.privateKey,
             publicKey := ethAccount.publicKey }
  | .TRON => do
    let tronAccount ← env.recoverAccount secret
    return { secret, address := tronAccount.address, privateKey := tronAccount.privateKey,
             publicKey := tronAccount.publicKey }
  | chainName => throw (.error (js "invaild chainName:" ++ chainName.toJs))

def AccountOp.answer (env : AccountEnv) (op : AccountOp) (choice : AccountChoice)
    (s : AccountStore) : Option (Except Err op.Ans × AccountStore) :=
  match choice with
  | .fails e => some (.error e, s)
  | .done =>
    match op with
    | getServerKeypair => some (.ok env.secretKey, s)
    | getKeyValue keyName => some (.ok (s.redis keyName), s)
    | setKeyValue keyName value =>
      some (.ok (), { s with redis := Function.update s.redis keyName (some value) })
    | transformAccount chainName secret => some (env.transformAccount chainName secret, s)

namespace Account

open Async

abbrev AccountAsync := Async AccountStore AccountOp.Ans Err

variable (env : AccountEnv) (w : Worker) (chainName : ExternalChainName) (assetType : JsString)

def getServerKeypair : AccountAsync JsString := call AccountOp.getServerKeypair

def getKeyValue (keyName : JsString) : AccountAsync (Option JsString) :=
  call (AccountOp.getKeyValue keyName)

def setKeyValue (keyName value : JsString) : AccountAsync Unit :=
  call (AccountOp.setKeyValue keyName value)

def transformAccount (secret : JsString) : AccountAsync WalletAccount :=
  call (AccountOp.transformAccount chainName secret)

/-- `assetMap.set(assetType, account)`. -/
def setMap (account : WalletAccount) (s : AccountStore) : AccountStore :=
  { s with
    externalkeypairMap := Function.update s.externalkeypairMap w
      (Function.update (s.externalkeypairMap w) chainName
        (Function.update (s.externalkeypairMap w chainName) assetType (some account))) }

def getAccountKey : JsString := chainName.toJs ++ js "_" ++ assetType

/-- `bip39.generateMnemonic()`, with the randomness for its encryption. -/
def generateMnemonic : AccountAsync (Nat × JsString) := do
  let s ← store
  update fun s => { s with generated := s.generated + 1 }
  return (s.generated, env.generateMnemonic s.generated)

/-- `__initAccount`. -/
def initAccount : AccountAsync WalletAccount := do
  let secretKey ← getServerKeypair
  let keyName := getAccountKey chainName assetType
  let (nonce, secret) ← generateMnemonic env
  let result := env.asymmetricEncrypt nonce secret env.clientPublicKey secretKey
  setKeyValue keyName result
  let account ← transformAccount chainName secret
  update (setMap w chainName assetType account)
  return account

def initExternalAccount : AccountAsync WalletAccount := do
  let _ ← getServerKeypair
  let s ← store
  match s.externalkeypairMap w chainName assetType with
  | some account => return account
  | none =>
    let secretKey ← getServerKeypair
    let keyName := getAccountKey chainName assetType
    let redisValue ← getKeyValue keyName
    if truthy redisValue then
      match env.asymmetricDecrypt (orUndefined redisValue) env.clientPublicKey secretKey with
      | none => throw (.error (js "decrypt fail"))
      | some secret =>
        let account ← transformAccount chainName secret
        update (setMap w chainName assetType account)
        return account
    else
      initAccount env w chainName assetType

/-- A call, and the record of what it returned. -/
def initExternalAccountCall : AccountAsync Unit := do
  let account ← initExternalAccount env w chainName assetType
  update fun s => { s with returned := account :: s.returned }

/-- `__setExternalKeypair`. -/
def setExternalKeypair (account : WalletAccount) : AccountAsync Bool := do
  let s ← store
  if (s.externalkeypairMap w chainName assetType).isSome then
    return false
  update (setMap w chainName assetType account)
  return true

/-- `injectExternalAddress` in the order worker `w`; `parseMnemonic` is `JSON.parse`. -/
def injectExternalAddress (parseMnemonic : JsString → Except Err JsString)
    (keypairStr : JsString) : AccountAsync Bool := do
  let secretKey ← getServerKeypair
  match env.asymmetricDecrypt keypairStr env.clientPublicKey secretKey with
  | none => return false
  | some keypairText =>
    tryCatch
      (do
        let mnemonic ← settle (parseMnemonic keypairText)
        let account ← transformAccount chainName mnemonic
        setExternalKeypair w chainName assetType account)
      fun _ => return false

/-- The key pair that pays out. -/
def forceGetExternalKeypair (s : AccountStore) : Except Err WalletAccount :=
  match s.externalkeypairMap w chainName assetType with
  | none => .error (.error (js "[" ++ chainName.toJs ++ js "] " ++ assetType ++ js " is not inject"))
  | some keypair => .ok keypair

end Account

/-- Calls for one chain and asset; an event is a call in a worker. -/
def accountProgram (env : AccountEnv) (chainName : ExternalChainName) (assetType : JsString) :
    Program AccountStore AccountOp.Ans Err Worker AccountChoice Worker where
  event w s := some (s, some (w, Account.initExternalAccountCall env w chainName assetType))
  kills _ _ := false
  answer := AccountOp.answer env

end CotServer
