import CotServer.Model.Config.Platform
import CotServer.Theory.Tagged

/-!
# The key maps of a process

The calls that write to the external key map, `initExternalAccount` and `injectExternalAddress`, and
the one that writes to the internal key map, `injectRWAddress`. Any number of calls run interleaved
at their awaits. The operations of the external calls name the call, so that it can be said which
call a step belongs to.
-/

namespace CotServer

open Async

/-! ## The external key map -/

/-- A call; an injection runs in the order worker, whatever worker it reaches. -/
inductive KeyCall where
  | initExternalAccount (w : Worker) (chainName : ExternalChainName) (assetType : JsString)
  | injectExternalAddress (chainName : ExternalChainName) (assetType keypairStr : JsString)

/-- The answers to the operations of the calls. -/
abbrev KeyCall.Ans (x : KeyCall × AccountOp) : Type := x.2.Ans

def KeyCall.function (env : AccountEnv) (parseMnemonic : JsString → Except Err JsString) :
    KeyCall → Account.AccountAsync Unit
  | initExternalAccount w chainName assetType =>
    Account.initExternalAccountCall env w chainName assetType
  | injectExternalAddress chainName assetType keypairStr => do
    let _ : Bool ← Account.injectExternalAddress env orderWorker chainName assetType parseMnemonic
      keypairStr

/-- Calls for all chains and assets; an event is a call. -/
def keyProgram (env : AccountEnv) (parseMnemonic : JsString → Except Err JsString) :
    Program AccountStore KeyCall.Ans Err KeyCall AccountChoice KeyCall where
  event c s := some (s, some (c, (c.function env parseMnemonic).tagged c))
  kills _ _ := false
  answer x := AccountOp.answer env x.2

/-! ## The internal key map -/

/-- `BFMetaSignUtil.Keypair`. -/
structure Keypair where
  publicKey : JsString
  secretKey : JsString
  deriving DecidableEq

/-- `COTCore.Verify.AccountType`. -/
structure AccountType where
  secret : JsString
  keypair : Keypair
  deriving DecidableEq

/-- `parseSecret` is `JSON.parse` of an injected secret. -/
structure MemoryEnv where
  clientPublicKey : JsString
  serverKeypair : Keypair
  asymmetricDecrypt : (data publicKey secretKey : JsString) → Option JsString
  parseSecret : JsString → Except Err JsString
  createKeypair : JsString → Except Err Keypair

/-- The map of the order worker. -/
structure MemoryStore where
  rwkeypairMap : JsString → Option AccountType := fun _ => none

inductive MemoryOp where
  | getServerKeypair
  | createKeypair (secret : JsString)

abbrev MemoryOp.Ans : MemoryOp → Type
  | getServerKeypair => Keypair
  | createKeypair _ => Keypair

def MemoryOp.answer (env : MemoryEnv) (op : MemoryOp) (choice : AccountChoice) (s : MemoryStore) :
    Option (Except Err op.Ans × MemoryStore) :=
  match choice with
  | .fails e => some (.error e, s)
  | .done =>
    match op with
    | getServerKeypair => some (.ok env.serverKeypair, s)
    | createKeypair secret => some (env.createKeypair secret, s)

namespace MemoryService

abbrev MemoryAsync := Async MemoryStore MemoryOp.Ans Err

def getServerKeypair : MemoryAsync Keypair := call MemoryOp.getServerKeypair

def createKeypair (secret : JsString) : MemoryAsync Keypair := call (MemoryOp.createKeypair secret)

def setRWKeypair (accountType : JsString) (keypair : AccountType) : MemoryAsync Bool := do
  let s ← store
  if (s.rwkeypairMap accountType).isSome then
    return false
  else
    update fun s =>
      { s with rwkeypairMap := Function.update s.rwkeypairMap accountType (some keypair) }
    return true

/-- `injectRWAddress` in the order worker. -/
def injectRWAddress (env : MemoryEnv) (accountType keypairStr : JsString) : MemoryAsync Bool := do
  let serverKeypair ← getServerKeypair
  match env.asymmetricDecrypt keypairStr env.clientPublicKey serverKeypair.secretKey with
  | none => return false
  | some keypairText =>
    tryCatch
      (do
        let secret ← settle (env.parseSecret keypairText)
        let keypair ← createKeypair secret
        setRWKeypair accountType { secret, keypair })
      fun _ => return false

end MemoryService

/-- An event is a call: the account type, and the encrypted secret. -/
def memoryProgram (env : MemoryEnv) :
    Program MemoryStore MemoryOp.Ans Err (JsString × JsString) AccountChoice Unit where
  event c s := some (s, some ((), do
    let _ : Bool ← MemoryService.injectRWAddress env c.1 c.2))
  kills _ _ := false
  answer := MemoryOp.answer env

end CotServer
