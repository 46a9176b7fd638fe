import CotServer.Model.Config.Writers
import CotServer.Theory.Serial

/-!
# Startup among the web workers

`Master` forks the order worker after the web workers, and waits for neither: while
`OrderApp.onModuleInit` awaits one account after another, web workers serve `setConfig` and
`setRecharge`. All of them share the stored config. Each function is a client with a number of its
own, so that what its calls find outside the config can depend on all that has happened.
-/

namespace CotServer

inductive ConfigRequest where
  | onModuleInit
  | setConfig (encryptConfig : JsString)
  | setRecharge (rechargeConfig : RechargeObject)
  deriving DecidableEq

/-- The stored config, and what has been requested and called. -/
abbrev ConfigStore := Shared BusinessConfig ConfigRequest

def ConfigRequest.function (env : ConfigEnv) (caller : Caller) :
    ConfigRequest → ConfigAsync ConfigStore Unit
  | onModuleInit => ConfigWriter.onModuleInit env caller
  | setConfig encryptConfig => ConfigWriter.setConfig env caller encryptConfig
  | setRecharge rechargeConfig => ConfigWriter.setRecharge env caller rechargeConfig

def ConfigOp.access : ConfigOp → Access
  | getConfig => .read
  | saveConfig _ | saveConfigByKey _ => .write
  | _ => .own

/-- What the `n`th call of a caller finds outside the config, or the error that it throws. -/
abbrev CallServices := Caller → Nat → Except Err Services

def ConfigCall.answerAt (services : CallServices) (n : Nat) (c : ConfigCall) (config : BusinessConfig) :
    Except Err c.Ans × BusinessConfig :=
  match services c.caller n with
  | .ok services => c.op.serve services config
  | .error e => (.error e, config)

/-- The functions that read and write the stored config. -/
def configClients (env : ConfigEnv) (services : CallServices) :
    Clients BusinessConfig ConfigCall.Ans Err ConfigRequest where
  function caller request := request.function env caller
  client c := c.caller
  access c := c.op.access
  answer := ConfigCall.answerAt services

end CotServer
