import CotServer.Model.Types
import CotServer.Theory.Requests
import Mathlib.Logic.Function.Basic

/-!
# Administrators

Sessions and user rows: `AdminAuthorization`, and the `login`, `createUser` and `updateUser` of
`UserService`. Sessions are values in Redis that expire; the user table is in the database. The
bodies of requests are not validated, so a field of one may be absent.

A condition `undefined` is left out of a `where`, names are compared as the collation of their
column does, and where several rows match any of them is found. `save` writes the entity as it is
over the row with its id.
-/

namespace CotServer

namespace ErrorCode

def ADMIN_INVALID_AUTH : Err :=
  .response 900000 (js "invalid authorization, please Reauthorization")

def ADMIN_LOGIN_NAME_ERROR : Err := .response 900001 (js "login name is error")

def ADMIN_PASSWORD_ERROR : Err := .response 900002 (js "password is error")

def ADMIN_OLD_PASSWORD_ERROR : Err := .response 900002 (js "old password is error")

def ONLY_SUPER_ADMIN_ADD_USER : Err := .response 900002 (js "only super admin can add user")

end ErrorCode

/-! ## Data -/

inductive USER_STATUS where
  | STOP
  | START
  deriving DecidableEq

inductive USER_ROLE where
  | ANYONE
  | SUPER_ADMIN
  | ADMIN
  deriving DecidableEq

/-- A row of the user table. -/
structure UserEntity where
  id : Nat
  loginName : JsString
  password : JsString
  nickName : Option JsString := none
  loginTime : Option Nat := none
  status : USER_STATUS
  role : USER_ROLE
  deriving DecidableEq

/-- A user that is to be inserted. -/
structure NewUser where
  loginName : Option JsString
  password : JsString
  nickName : Option JsString
  status : USER_STATUS
  role : USER_ROLE

/-- The row of a new user. -/
def NewUser.entity (user : NewUser) (id : Nat) (loginName : JsString) : UserEntity :=
  { id, loginName, password := user.password, nickName := user.nickName, status := user.status
    role := user.role }

/-- A row of the table of operate records. -/
structure OperateRecordEntity where
  id : Nat
  loginName : JsString
  api : JsString
  data : JsString
  version : JsString
  result : Bool
  deriving DecidableEq

/-- An operate record that is to be inserted. -/
structure NewOperateRecord where
  loginName : Option JsString
  api : JsString
  data : JsString
  version : JsString
  result : Bool

/-- The row of a new operate record. -/
def NewOperateRecord.entity (record : NewOperateRecord) (id : Nat) (loginName : JsString) :
    OperateRecordEntity :=
  { id, loginName, api := record.api, data := record.data, version := record.version
    result := record.result }

structure AdminAuthInfo where
  loginName : Option JsString
  expiredTime : Nat
  token : JsString
  deriving DecidableEq

/-- What `AdminAuthorization` hands over; without a session it has no fields. -/
abbrev CurrentAdmin := Option AdminAuthInfo

def CurrentAdmin.loginName (auth : CurrentAdmin) : Option JsString := auth.bind (·.loginName)

/-- The bodies are not checked in the source; here they have the types of the fields, each of which
can be missing. -/
structure LoginReqDto where
  loginName : Option JsString
  password : Option JsString
  deriving DecidableEq

structure CreateUserReqDto where
  loginName : Option JsString
  nickName : Option JsString
  password : Option JsString
  deriving DecidableEq

structure UpdateUserReqDto where
  oldPassword : Option JsString
  newPassword : Option JsString
  deriving DecidableEq

/-! ## The surroundings -/

/-- A value in Redis. -/
structure RedisEntry where
  value : AdminAuthInfo
  expiresAt : Nat

/-- A value written to or read from Redis, and when. -/
structure SessionEvent where
  key : JsString
  info : AdminAuthInfo
  time : Nat

/-- A login that has passed its checks. -/
structure PassedLogin where
  user : UserEntity
  dto : LoginReqDto
  time : Nat

/-- A password that an `updateUser` has accepted; `user` is the row as it was read. -/
structure PasswordChange where
  user : UserEntity
  auth : CurrentAdmin
  dto : UpdateUserReqDto

/-- The retries of the two services. -/
inductive RetryCall where
  | rechargeExternalOnChain (orderId : Option JsString)
  | rechargeInternalOnChain (orderId : Option JsString)
  | redemptionInternalOnChain (orderId : Option JsString)
  | redemptionExternalOnChain (orderId : Option JsString)
  deriving DecidableEq

/-- A retry that has been called, with what it has returned if it has not thrown. -/
structure Retried where
  call : RetryCall
  returned : Option Bool
  deriving DecidableEq

/-- The database, Redis and the clock, and a history. -/
structure AdminStore where
  users : List UserEntity
  operateRecords : List OperateRecordEntity := []
  redis : JsString → Option RedisEntry := fun _ => none
  now : Nat := 0
  /-- The rows that lookups have found, as they were then. -/
  rowsRead : List UserEntity := []
  created : List UserEntity := []
  logins : List PassedLogin := []
  sessionsWritten : List SessionEvent := []
  sessionsRead : List SessionEvent := []
  changes : List PasswordChange := []
  retries : List Retried := []

/-- Awaited calls. -/
inductive AdminOp where
  | redisGet (key : JsString)
  | redisSet (key : JsString) (value : AdminAuthInfo) (EX : Nat)
  | findOneBy (loginName : Option JsString) (status : USER_STATUS)
  | findOneForce (loginName : Option JsString)
  | saveUser (user : UserEntity)
  | insertUser (user : NewUser)
  | insertOperateRecord (record : NewOperateRecord)
  | saveOperateRecord (record : OperateRecordEntity)
  | retry (call : RetryCall)

abbrev AdminOp.Ans : AdminOp → Type
  | redisGet _ => Option AdminAuthInfo
  | redisSet .. | saveUser _ | insertUser _ | saveOperateRecord _ => Unit
  | findOneBy .. => Option UserEntity
  | findOneForce _ => UserEntity
  | insertOperateRecord _ => OperateRecordEntity
  | retry _ => Bool

inductive AdminReply where
  | fails (e : Err)
  | done
  /-- The row that is found, or the id of the row that is inserted. -/
  | row (id : Nat)
  | flag (b : Bool)

/-- The reply to a call, and how long it has taken. -/
structure AdminChoice where
  elapsed : Nat := 0
  reply : AdminReply

structure AdminEnv where
  /-- `jwtService.sign`, with the time of the signature. -/
  sign : (loginName : Option JsString) → (expiredTime iat : Nat) → JsString
  isVaildSHA256 : JsString → Bool
  /-- Names with the same image are the same to the database. -/
  collation : JsString → JsString
  VERSION : JsString

namespace UserEntity

/-- The row meets the condition on its name. -/
def named (env : AdminEnv) (loginName : Option JsString) (user : UserEntity) : Bool :=
  loginName.all fun name => env.collation user.loginName = env.collation name

end UserEntity

namespace AdminStore

/-- A lookup finds the row with the id, or none when no row matches. -/
def lookup (s : AdminStore) (matching : UserEntity → Bool) (reply : AdminReply) :
    Option (Option UserEntity × AdminStore) :=
  match reply with
  | .row id =>
    match s.users.find? fun user => user.id = id ∧ matching user with
    | some user => some (some user, { s with rowsRead := user :: s.rowsRead })
    | none => none
  | .done => if s.users.any matching then none else some (none, s)
  | _ => none

/-- The columns are not null, and the name is new. -/
def insertUser (env : AdminEnv) (s : AdminStore) (user : NewUser) (id : Nat) :
    Option AdminStore :=
  match user.loginName with
  | none => none
  | some loginName =>
    if s.users.any fun u => u.id = id ∨ env.collation u.loginName = env.collation loginName then
      none
    else
      let row := user.entity id loginName
      some { s with users := s.users ++ [row], created := s.created ++ [row] }

def saveUser (s : AdminStore) (user : UserEntity) : AdminStore :=
  { s with users := s.users.map fun u => if u.id = user.id then user else u }

def insertOperateRecord (s : AdminStore) (record : NewOperateRecord) (id : Nat) :
    Option (OperateRecordEntity × AdminStore) :=
  match record.loginName with
  | none => none
  | some loginName =>
    if s.operateRecords.any (·.id = id) then none
    else
      let row := record.entity id loginName
      some (row, { s with operateRecords := s.operateRecords ++ [row] })

def saveOperateRecord (s : AdminStore) (record : OperateRecordEntity) : AdminStore :=
  { s with
    operateRecords := s.operateRecords.map fun r => if r.id = record.id then record else r }

/-- `redis.get` finds what has not expired. -/
def redisGet (s : AdminStore) (key : JsString) : Option AdminAuthInfo × AdminStore :=
  match s.redis key with
  | none => (none, s)
  | some entry =>
    if s.now < entry.expiresAt then
      (some entry.value, { s with sessionsRead := ⟨key, entry.value, s.now⟩ :: s.sessionsRead })
    else (none, s)

/-- `redis.set` with an expiry in seconds. -/
def redisSet (s : AdminStore) (key : JsString) (value : AdminAuthInfo) (EX : Nat) : AdminStore :=
  { s with
    redis := Function.update s.redis key (some ⟨value, s.now + EX * 1000⟩)
    sessionsWritten := ⟨key, value, s.now⟩ :: s.sessionsWritten }

end AdminStore

/-- The reply to a call at the present time. Only a retry that throws may have had an effect. -/
def AdminOp.reply (env : AdminEnv) (op : AdminOp) (reply : AdminReply) (s : AdminStore) :
    Option (Except Err op.Ans × AdminStore) :=
  match op, reply with
  | retry call, .fails e => some (.error e, { s with retries := ⟨call, none⟩ :: s.retries })
  | _, .fails e => some (.error e, s)
  | redisGet key, .done => some (.ok (s.redisGet key).1, (s.redisGet key).2)
  | redisSet key value EX, .done => some (.ok (), s.redisSet key value EX)
  | findOneBy loginName status, reply =>
    (s.lookup (fun user => user.named env loginName ∧ user.status = status) reply).map
      fun (user, t) => (.ok user, t)
  | findOneForce loginName, reply =>
    (s.lookup (·.named env loginName) reply).map fun
      | (some user, t) => (.ok user, t)
      | (none, t) => (.error (.error (js "couldn't find entity")), t)
  | saveUser user, .done => some (.ok (), s.saveUser user)
  | insertUser user, .row id => (s.insertUser env user id).map fun t => (.ok (), t)
  | insertOperateRecord record, .row id =>
    (s.insertOperateRecord record id).map fun (row, t) => (.ok row, t)
  | saveOperateRecord record, .done => some (.ok (), s.saveOperateRecord record)
  | retry call, .flag b => some (.ok b, { s with retries := ⟨call, some b⟩ :: s.retries })
  | _, _ => none

/-- Time passes, and then the call is answered. -/
def AdminOp.answer (env : AdminEnv) (op : AdminOp) (choice : AdminChoice) (s : AdminStore) :
    Option (Except Err op.Ans × AdminStore) :=
  op.reply env choice.reply { s with now := s.now + choice.elapsed }

/-- An async function of the admin module. -/
abbrev AdminAsync := Async AdminStore AdminOp.Ans Err

open Async

/-! ## Sessions -/

def VerifyHelper.getAdminKey (token : JsString) : JsString := js "admin-login:" ++ token

def EXPIRED_TIME_REDIS : Nat := 7 * 24 * 60 * 60

def AUTHORIZATION_START_WITH : JsString := js "Bearer "

/-- `authorization.split(" ")[1]`, behind the prefix. -/
def bearerToken (authorization : JsString) : Option JsString :=
  if AUTHORIZATION_START_WITH.isPrefixOf authorization then
    some ((authorization.drop AUTHORIZATION_START_WITH.length).takeWhile (· ≠ 0x20))
  else none

/-- The parameter decorator; `authorization` is the header of the request. -/
def AdminAuthorization (required : Bool) (authorization : Option JsString) :
    AdminAsync CurrentAdmin := do
  match authorization.bind bearerToken with
  | some token =>
    let authInfo ← call (AdminOp.redisGet (VerifyHelper.getAdminKey token))
    throwIf (required ∧ authInfo = none) ErrorCode.ADMIN_INVALID_AUTH
    return authInfo
  | none =>
    throwIf required ErrorCode.ADMIN_INVALID_AUTH
    return none

/-! ## `UserService` -/

namespace UserService

variable (env : AdminEnv)

def findOneForce (loginName : Option JsString) : AdminAsync UserEntity :=
  call (AdminOp.findOneForce loginName)

def saveUser (user : UserEntity) : AdminAsync Unit := call (AdminOp.saveUser user)

def login (dto : LoginReqDto) : AdminAsync AdminAuthInfo := do
  let user ← call (AdminOp.findOneBy dto.loginName .START)
  match user with
  | none => throw ErrorCode.ADMIN_LOGIN_NAME_ERROR
  | some user =>
    throwIf (dto.password ≠ some user.password) ErrorCode.ADMIN_PASSWORD_ERROR
    let s ← store
    update fun s => { s with logins := ⟨user, dto, s.now⟩ :: s.logins }
    let expiredTime := s.now + 7 * 24 * 3600 * 1000
    let token := env.sign dto.loginName expiredTime (s.now / 1000)
    let res : AdminAuthInfo := { loginName := dto.loginName, expiredTime, token }
    call (AdminOp.redisSet (VerifyHelper.getAdminKey token) res EXPIRED_TIME_REDIS)
    let s ← store
    saveUser { user with loginTime := some s.now }
    return res

def createUser (auth : CurrentAdmin) (newUser : CreateUserReqDto) : AdminAsync Bool := do
  let checkUser ← findOneForce auth.loginName
  throwIf (checkUser.role ≠ .SUPER_ADMIN) ErrorCode.ONLY_SUPER_ADMIN_ADD_USER
  match newUser.password.filter env.isVaildSHA256 with
  | none => throw ErrorCode.ADMIN_PASSWORD_ERROR
  | some password =>
    call (AdminOp.insertUser
      { loginName := newUser.loginName, password, nickName := newUser.nickName
        status := .START, role := .ADMIN })
    return true

/-- The password after the checks of `updateUser`. -/
def newPassword (auth : CurrentAdmin) (dto : UpdateUserReqDto) (user : UserEntity) :
    AdminAsync JsString := do
  match dto.oldPassword.filter (!·.isEmpty) with
  | none => return user.password
  | some oldPassword =>
    throwIf (!env.isVaildSHA256 oldPassword) ErrorCode.ADMIN_PASSWORD_ERROR
    throwIf (oldPassword ≠ user.password) ErrorCode.ADMIN_OLD_PASSWORD_ERROR
    match dto.newPassword.filter (!·.isEmpty) with
    | none => return user.password
    | some newPassword =>
      throwIf (!env.isVaildSHA256 newPassword) ErrorCode.ADMIN_PASSWORD_ERROR
      update fun s => { s with changes := ⟨user, auth, dto⟩ :: s.changes }
      return newPassword

def updateUser (auth : CurrentAdmin) (dto : UpdateUserReqDto) : AdminAsync UserEntity := do
  let user ← findOneForce auth.loginName
  let password ← newPassword env auth dto user
  let user := { user with password }
  saveUser user
  return user

/-- `data` is a string already, and is stringified once more. -/
def saveOperateRecord (loginName : Option JsString) (api data : JsString) :
    AdminAsync OperateRecordEntity :=
  call (AdminOp.insertOperateRecord
    { loginName, api, data := JsString.quote data, version := env.VERSION, result := false })

def operateRecordSuccess (operateRecord : OperateRecordEntity) : AdminAsync Unit :=
  call (AdminOp.saveOperateRecord { operateRecord with result := true })

end UserService

end CotServer
