import CotServer.Model.Admin.Order
import Mathlib.Data.List.Forall2
import Mathlib.Data.List.Nodup

/-!
# What the requests of administrators do to their store

Rows are found, saved and inserted, sessions are written and read, and retries are called, each by a
function that has found out something before. `AdminOp.Justified` says what that is, and
`AdminStore.Sound` is what all of them keep; both speak about the histories of the store, which
only grow.
-/

namespace CotServer

/-- The rows are the same but for the password and the login time. -/
structure UserEntity.SameUser (u v : UserEntity) : Prop where
  id : v.id = u.id
  loginName : v.loginName = u.loginName
  nickName : v.nickName = u.nickName
  status : v.status = u.status
  role : v.role = u.role

/-- The row of a fix. -/
structure OperateRecordEntity.Names (r : OperateRecordEntity) (type : ORDER_TYPE)
    (dto : FixOrderReqDto) : Prop where
  api : r.api = type.api
  data : r.data = JsString.quote dto.stringify

/-- The row as it is once its fix has succeeded. -/
def OperateRecordEntity.success (r : OperateRecordEntity) : OperateRecordEntity :=
  { r with result := true }

/-- The session of a login. -/
def PassedLogin.session (env : AdminEnv) (l : PassedLogin) : AdminAuthInfo where
  loginName := l.dto.loginName
  expiredTime := l.time + 7 * 24 * 3600 * 1000
  token := env.sign l.dto.loginName (l.time + 7 * 24 * 3600 * 1000) (l.time / 1000)

namespace AdminStore

/-- A session with the name has been read. -/
def SessionOf (s : AdminStore) (loginName : Option JsString) : Prop :=
  ∃ g ∈ s.sessionsRead, g.info.loginName = loginName

/-- A login that led to the session: the password was that of a started user with the name. -/
def LoggedIn (env : AdminEnv) (s : AdminStore) (info : AdminAuthInfo) (time : Nat) : Prop :=
  ∃ l ∈ s.logins, l.time ≤ time ∧ info = l.session env ∧ l.user ∈ s.rowsRead ∧
    l.user.status = .START ∧ l.user.named env l.dto.loginName = true ∧
    l.dto.password = some l.user.password

/-- The rows of the table as they were in the beginning or when they were inserted. -/
def origins (s₀ s : AdminStore) : List UserEntity := s₀.users ++ s.created

/-- The row is that of a user in the table, with a password that the user has been given. -/
structure KnownUser (s₀ s : AdminStore) (u : UserEntity) : Prop where
  same : ∃ v ∈ origins s₀ s, v.SameUser u
  password : (∃ v ∈ origins s₀ s, v.id = u.id ∧ v.password = u.password) ∨
    ∃ c ∈ s.changes, c.user.id = u.id ∧ c.dto.newPassword = some u.password

/-- A super administrator of that name has been found for a session of that name. -/
def SuperAdminSession (env : AdminEnv) (s : AdminStore) : Prop :=
  ∃ loginName, s.SessionOf loginName ∧
    ∃ u ∈ s.rowsRead, u.role = .SUPER_ADMIN ∧ u.named env loginName = true

/-- A row for a fix, later than the beginning and by a session's user. -/
def Audited (s₀ s : AdminStore) (r : OperateRecordEntity) (type : ORDER_TYPE)
    (dto : FixOrderReqDto) : Prop :=
  r.Names type dto ∧ (∀ r₀ ∈ s₀.operateRecords, r₀.id ≠ r.id) ∧ s.SessionOf (some r.loginName)

/-- The retry that the row's fix stands for has returned. -/
def Fixed (s : AdminStore) (r : OperateRecordEntity) : Prop :=
  ∃ type dto call b, r.Names type dto ∧ OrderService.retryOf type dto = some call ∧
    ⟨call, some b⟩ ∈ s.retries

/-- A later store: the clock, the histories and the operate records move forward. -/
structure Later (s s' : AdminStore) : Prop where
  now : s.now ≤ s'.now
  rowsRead : s.rowsRead ⊆ s'.rowsRead
  created : s.created ⊆ s'.created
  logins : s.logins ⊆ s'.logins
  sessionsWritten : s.sessionsWritten ⊆ s'.sessionsWritten
  sessionsRead : s.sessionsRead ⊆ s'.sessionsRead
  changes : s.changes ⊆ s'.changes
  retries : s.retries ⊆ s'.retries
  operateRecords : ∀ r ∈ s.operateRecords,
    r ∈ s'.operateRecords ∨ r.success ∈ s'.operateRecords

/-- What the requests keep, from the store `s₀` on. -/
structure Sound (env : AdminEnv) (s₀ s : AdminStore) : Prop where
  later : s₀.Later s
  redis : ∀ key entry, s.redis key = some entry → ∃ w ∈ s.sessionsWritten,
    w.key = key ∧ w.info = entry.value ∧ entry.expiresAt = w.time + EXPIRED_TIME_REDIS * 1000
  written : ∀ w ∈ s.sessionsWritten, w.time ≤ s.now ∧
    w.key = VerifyHelper.getAdminKey w.info.token ∧ s.LoggedIn env w.info w.time
  read : ∀ g ∈ s.sessionsRead, ∃ w ∈ s.sessionsWritten, w.key = g.key ∧ w.info = g.info ∧
    w.time ≤ g.time ∧ g.time < w.time + EXPIRED_TIME_REDIS * 1000
  ids : ((origins s₀ s).map (·.id)).Nodup
  names : ((origins s₀ s).map fun u => env.collation u.loginName).Nodup
  rows : List.Forall₂ UserEntity.SameUser (origins s₀ s) s.users
  users : ∀ u ∈ s.users, KnownUser s₀ s u
  rowsRead : ∀ u ∈ s.rowsRead, KnownUser s₀ s u
  created : ∀ u ∈ s.created, u.role = .ADMIN ∧ u.status = .START ∧
    env.isVaildSHA256 u.password = true ∧ s.SuperAdminSession env
  changes : ∀ c ∈ s.changes, c.user ∈ s.rowsRead ∧ c.dto.oldPassword = some c.user.password ∧
    c.user.named env c.auth.loginName = true ∧ s.SessionOf c.auth.loginName ∧
    ∃ password, c.dto.newPassword = some password ∧ env.isVaildSHA256 password = true
  recordIds : (s.operateRecords.map (·.id)).Nodup
  results : ∀ r ∈ s.operateRecords, r.result = true → r ∈ s₀.operateRecords ∨ s.Fixed r
  retries : ∀ x ∈ s.retries, ∃ type dto, OrderService.retryOf type dto = some x.call ∧
    ∃ r ∈ s.operateRecords, Audited s₀ s r type dto

end AdminStore

open AdminStore

/-- What the caller of an operation has found out. -/
def AdminOp.Justified (env : AdminEnv) (s₀ s : AdminStore) : AdminOp → Prop
  | redisSet key value EX => EX = EXPIRED_TIME_REDIS ∧
      key = VerifyHelper.getAdminKey value.token ∧ s.LoggedIn env value s.now
  | saveUser user => KnownUser s₀ s user
  | insertUser user => user.role = .ADMIN ∧ user.status = .START ∧
      env.isVaildSHA256 user.password = true ∧ s.SuperAdminSession env
  | insertOperateRecord record => record.result = false ∧ s.SessionOf record.loginName
  | saveOperateRecord record => record.result = true ∧ s.Fixed record ∧
      ∃ r ∈ s.operateRecords, r.success = record
  | retry call => ∃ type dto, OrderService.retryOf type dto = some call ∧
      ∃ r ∈ s.operateRecords, Audited s₀ s r type dto
  | redisGet _ | findOneBy .. | findOneForce _ => True

/-- What an answer tells. -/
def AdminOp.Told (env : AdminEnv) (s₀ s : AdminStore) : (op : AdminOp) → op.Ans → Prop
  | redisGet key, info => ∀ i, info = some i → ∃ g ∈ s.sessionsRead, g.key = key ∧ g.info = i
  | findOneBy loginName status, user => ∀ u, user = some u →
      u ∈ s.rowsRead ∧ u.named env loginName = true ∧ u.status = status
  | findOneForce loginName, user => user ∈ s.rowsRead ∧ user.named env loginName = true
  | insertOperateRecord record, row =>
      (row ∈ s.operateRecords ∨ row.success ∈ s.operateRecords) ∧
        (∀ r₀ ∈ s₀.operateRecords, r₀.id ≠ row.id) ∧
        record.loginName = some row.loginName ∧ row = record.entity row.id row.loginName
  | saveOperateRecord record, _ => record.success ∈ s.operateRecords
  | retry call, b => ⟨call, some b⟩ ∈ s.retries
  | redisSet .., _ | saveUser _, _ | insertUser _, _ => True

/-! ## Later stores -/

namespace OperateRecordEntity

variable {r : OperateRecordEntity} {type type' : ORDER_TYPE} {dto dto' : FixOrderReqDto}

theorem Names.success (h : r.Names type dto) : r.success.Names type dto := ⟨h.api, h.data⟩

theorem success_eq_of_result (h : r.result = true) : r.success = r := by
  obtain ⟨id, loginName, api, data, version, result⟩ := r
  obtain rfl : result = true := h
  rfl

end OperateRecordEntity

namespace AdminStore

variable {env : AdminEnv} {s₀ s s' s'' : AdminStore} {r : OperateRecordEntity}

theorem Later.refl (s : AdminStore) : s.Later s where
  now := Nat.le_refl _
  rowsRead := List.Subset.refl _
  created := List.Subset.refl _
  logins := List.Subset.refl _
  sessionsWritten := List.Subset.refl _
  sessionsRead := List.Subset.refl _
  changes := List.Subset.refl _
  retries := List.Subset.refl _
  operateRecords _ hr := .inl hr

theorem Later.trans (h : s.Later s') (h' : s'.Later s'') : s.Later s'' where
  now := Nat.le_trans h.now h'.now
  rowsRead := List.Subset.trans h.rowsRead h'.rowsRead
  created := List.Subset.trans h.created h'.created
  logins := List.Subset.trans h.logins h'.logins
  sessionsWritten := List.Subset.trans h.sessionsWritten h'.sessionsWritten
  sessionsRead := List.Subset.trans h.sessionsRead h'.sessionsRead
  changes := List.Subset.trans h.changes h'.changes
  retries := List.Subset.trans h.retries h'.retries
  operateRecords r hr := by
    rcases h.operateRecords r hr with hr | hr
    · exact h'.operateRecords r hr
    · rcases h'.operateRecords _ hr with hr | hr <;> exact .inr hr

theorem SessionOf.later {loginName : Option JsString} (h : s.SessionOf loginName)
    (hs : s.Later s') : s'.SessionOf loginName := by
  obtain ⟨g, hg, hname⟩ := h
  exact ⟨g, hs.sessionsRead hg, hname⟩

theorem LoggedIn.later {info : AdminAuthInfo} {time time' : Nat} (h : s.LoggedIn env info time)
    (hs : s.Later s') (htime : time ≤ time') : s'.LoggedIn env info time' := by
  obtain ⟨l, hl, hle, hsession, huser, hrest⟩ := h
  exact ⟨l, hs.logins hl, Nat.le_trans hle htime, hsession, hs.rowsRead huser, hrest⟩

theorem origins_subset (hs : s.Later s') : origins s₀ s ⊆ origins s₀ s' :=
  List.append_subset.2 ⟨List.subset_append_left _ _,
    List.Subset.trans hs.created (List.subset_append_right _ _)⟩

theorem KnownUser.later {u : UserEntity} (h : KnownUser s₀ s u) (hs : s.Later s') :
    KnownUser s₀ s' u where
  same := by
    obtain ⟨v, hv, hsame⟩ := h.same
    exact ⟨v, origins_subset hs hv, hsame⟩
  password := by
    rcases h.password with ⟨v, hv, hpassword⟩ | ⟨c, hc, hpassword⟩
    · exact .inl ⟨v, origins_subset hs hv, hpassword⟩
    · exact .inr ⟨c, hs.changes hc, hpassword⟩

theorem SuperAdminSession.later (h : s.SuperAdminSession env) (hs : s.Later s') :
    s'.SuperAdminSession env := by
  obtain ⟨loginName, hsession, u, hu, hrole⟩ := h
  exact ⟨loginName, hsession.later hs, u, hs.rowsRead hu, hrole⟩

theorem Audited.later {type : ORDER_TYPE} {dto : FixOrderReqDto} (h : Audited s₀ s r type dto)
    (hs : s.Later s') : Audited s₀ s' r type dto := ⟨h.1, h.2.1, h.2.2.later hs⟩

theorem Audited.success {type : ORDER_TYPE} {dto : FixOrderReqDto} (h : Audited s₀ s r type dto) :
    Audited s₀ s r.success type dto := ⟨h.1.success, h.2⟩

theorem Fixed.later (h : s.Fixed r) (hs : s.Later s') : s'.Fixed r := by
  obtain ⟨type, dto, call, b, hnames, hretry, hmem⟩ := h
  exact ⟨type, dto, call, b, hnames, hretry, hs.retries hmem⟩

/-- An audited row is still there later, up to its result. -/
theorem exists_audited_later {type : ORDER_TYPE} {dto : FixOrderReqDto}
    (h : ∃ r ∈ s.operateRecords, Audited s₀ s r type dto) (hs : s.Later s') :
    ∃ r ∈ s'.operateRecords, Audited s₀ s' r type dto := by
  obtain ⟨r, hr, haudited⟩ := h
  rcases hs.operateRecords r hr with hr | hr
  · exact ⟨r, hr, haudited.later hs⟩
  · exact ⟨r.success, hr, haudited.success.later hs⟩

end AdminStore

variable {env : AdminEnv} {s₀ s s' : AdminStore}

theorem AdminOp.Justified.later {op : AdminOp} (h : op.Justified env s₀ s) (hs : s.Later s') :
    op.Justified env s₀ s' := by
  cases op with
  | redisSet key value EX => exact ⟨h.1, h.2.1, h.2.2.later hs hs.now⟩
  | saveUser user => exact KnownUser.later h hs
  | insertUser user => exact ⟨h.1, h.2.1, h.2.2.1, h.2.2.2.later hs⟩
  | insertOperateRecord record => exact ⟨h.1, h.2.later hs⟩
  | saveOperateRecord record =>
    obtain ⟨hresult, hfixed, r, hr, rfl⟩ := h
    refine ⟨hresult, hfixed.later hs, ?_⟩
    rcases hs.operateRecords r hr with hr | hr
    · exact ⟨r, hr, rfl⟩
    · exact ⟨r.success, hr, rfl⟩
  | retry call =>
    obtain ⟨type, dto, hretry, haudited⟩ := h
    exact ⟨type, dto, hretry, exists_audited_later haudited hs⟩
  | _ => trivial

theorem AdminOp.Told.later {op : AdminOp} {a : op.Ans} (h : op.Told env s₀ s a)
    (hs : s.Later s') : op.Told env s₀ s' a := by
  cases op with
  | redisGet key =>
    intro i hi
    obtain ⟨g, hg, hkey⟩ := h i hi
    exact ⟨g, hs.sessionsRead hg, hkey⟩
  | findOneBy loginName status =>
    intro u hu
    obtain ⟨hmem, hrest⟩ := h u hu
    exact ⟨hs.rowsRead hmem, hrest⟩
  | findOneForce loginName => exact ⟨hs.rowsRead h.1, h.2⟩
  | insertOperateRecord record =>
    refine ⟨?_, h.2⟩
    rcases h.1 with hr | hr
    · exact hs.operateRecords _ hr
    · rcases hs.operateRecords _ hr with hr | hr <;> exact .inr hr
  | saveOperateRecord record =>
    rcases hs.operateRecords _ h with hr | hr <;> exact hr
  | retry call => exact hs.retries h
  | _ => trivial

/-! ## Steps -/

namespace AdminStore

variable (env s s') in
/-- What is new of the sessions is as it has to be. -/
structure SessionsStep : Prop where
  redis : ∀ key entry, s'.redis key = some entry → s.redis key = some entry ∨
    ∃ w ∈ s'.sessionsWritten, w.key = key ∧ w.info = entry.value ∧
      entry.expiresAt = w.time + EXPIRED_TIME_REDIS * 1000
  written : ∀ w ∈ s'.sessionsWritten, w ∈ s.sessionsWritten ∨
    w.time ≤ s'.now ∧ w.key = VerifyHelper.getAdminKey w.info.token ∧
      s'.LoggedIn env w.info w.time
  read : ∀ g ∈ s'.sessionsRead, g ∈ s.sessionsRead ∨ ∃ w ∈ s'.sessionsWritten, w.key = g.key ∧
    w.info = g.info ∧ w.time ≤ g.time ∧ g.time < w.time + EXPIRED_TIME_REDIS * 1000

variable (env s₀ s s') in
/-- What is new of the users is as it has to be. -/
structure UsersStep : Prop where
  ids : ((origins s₀ s).map (·.id)).Nodup → ((origins s₀ s').map (·.id)).Nodup
  names : ((origins s₀ s).map fun u => env.collation u.loginName).Nodup →
    ((origins s₀ s').map fun u => env.collation u.loginName).Nodup
  rows : List.Forall₂ UserEntity.SameUser (origins s₀ s) s.users →
    List.Forall₂ UserEntity.SameUser (origins s₀ s') s'.users
  users : ∀ u ∈ s'.users, u ∈ s.users ∨ KnownUser s₀ s' u
  rowsRead : ∀ u ∈ s'.rowsRead, u ∈ s.rowsRead ∨ KnownUser s₀ s' u
  created : ∀ u ∈ s'.created, u ∈ s.created ∨ u.role = .ADMIN ∧ u.status = .START ∧
    env.isVaildSHA256 u.password = true ∧ s'.SuperAdminSession env
  changes : ∀ c ∈ s'.changes, c ∈ s.changes ∨ c.user ∈ s'.rowsRead ∧
    c.dto.oldPassword = some c.user.password ∧ c.user.named env c.auth.loginName = true ∧
    s'.SessionOf c.auth.loginName ∧
    ∃ password, c.dto.newPassword = some password ∧ env.isVaildSHA256 password = true

variable (s₀ s s') in
/-- What is new of the fixes is as it has to be. -/
structure FixesStep : Prop where
  recordIds : (s.operateRecords.map (·.id)).Nodup → (s'.operateRecords.map (·.id)).Nodup
  results : ∀ r ∈ s'.operateRecords, r ∈ s.operateRecords ∨ (r.result = true → s'.Fixed r)
  retries : ∀ x ∈ s'.retries, x ∈ s.retries ∨ ∃ type dto,
    OrderService.retryOf type dto = some x.call ∧
      ∃ r ∈ s'.operateRecords, Audited s₀ s' r type dto

variable (env s₀ s s') in
/-- A step to a later store. -/
structure Step : Prop where
  later : s.Later s'
  sessions : SessionsStep env s s'
  users : UsersStep env s₀ s s'
  fixes : FixesStep s₀ s s'

theorem SessionsStep.same (hredis : s'.redis = s.redis)
    (hwritten : s'.sessionsWritten = s.sessionsWritten) (hread : s'.sessionsRead = s.sessionsRead) :
    SessionsStep env s s' where
  redis key entry h := .inl (by rwa [← hredis])
  written w h := .inl (by rwa [← hwritten])
  read g h := .inl (by rwa [← hread])

theorem UsersStep.same (husers : s'.users = s.users) (hcreated : s'.created = s.created)
    (hread : s'.rowsRead = s.rowsRead) (hchanges : s'.changes = s.changes) :
    UsersStep env s₀ s s' where
  ids h := by rwa [origins, hcreated]
  names h := by rwa [origins, hcreated]
  rows h := by rwa [origins, hcreated, husers]
  users u h := .inl (by rwa [← husers])
  rowsRead u h := .inl (by rwa [← hread])
  created u h := .inl (by rwa [← hcreated])
  changes c h := .inl (by rwa [← hchanges])

theorem FixesStep.same (hrecords : s'.operateRecords = s.operateRecords)
    (hretries : s'.retries = s.retries) : FixesStep s₀ s s' where
  recordIds h := by rwa [hrecords]
  results r h := .inl (by rwa [← hrecords])
  retries x h := .inl (by rwa [← hretries])

theorem Step.refl (s : AdminStore) : Step env s₀ s s :=
  ⟨.refl s, .same rfl rfl rfl, .same rfl rfl rfl rfl, .same rfl rfl⟩

theorem Step.sound (hstep : Step env s₀ s s') (h : Sound env s₀ s) : Sound env s₀ s' where
  later := h.later.trans hstep.later
  redis key entry hentry := by
    rcases hstep.sessions.redis key entry hentry with hold | hnew
    · obtain ⟨w, hw, hrest⟩ := h.redis key entry hold
      exact ⟨w, hstep.later.sessionsWritten hw, hrest⟩
    · exact hnew
  written w hw := by
    rcases hstep.sessions.written w hw with hold | hnew
    · obtain ⟨htime, hkey, hlogin⟩ := h.written w hold
      exact ⟨Nat.le_trans htime hstep.later.now, hkey, hlogin.later hstep.later (Nat.le_refl _)⟩
    · exact hnew
  read g hg := by
    rcases hstep.sessions.read g hg with hold | hnew
    · obtain ⟨w, hw, hrest⟩ := h.read g hold
      exact ⟨w, hstep.later.sessionsWritten hw, hrest⟩
    · exact hnew
  ids := hstep.users.ids h.ids
  names := hstep.users.names h.names
  rows := hstep.users.rows h.rows
  users u hu := (hstep.users.users u hu).elim (fun hold => (h.users u hold).later hstep.later) id
  rowsRead u hu :=
    (hstep.users.rowsRead u hu).elim (fun hold => (h.rowsRead u hold).later hstep.later) id
  created u hu := by
    rcases hstep.users.created u hu with hold | hnew
    · obtain ⟨hrole, hstatus, hsha, hadmin⟩ := h.created u hold
      exact ⟨hrole, hstatus, hsha, hadmin.later hstep.later⟩
    · exact hnew
  changes c hc := by
    rcases hstep.users.changes c hc with hold | hnew
    · obtain ⟨hread, hpassword, hname, hsession, hnew⟩ := h.changes c hold
      exact ⟨hstep.later.rowsRead hread, hpassword, hname, hsession.later hstep.later, hnew⟩
    · exact hnew
  recordIds := hstep.fixes.recordIds h.recordIds
  results r hr hresult := by
    rcases hstep.fixes.results r hr with hold | hnew
    · exact (h.results r hold hresult).imp_right (·.later hstep.later)
    · exact .inr (hnew hresult)
  retries x hx := by
    rcases hstep.fixes.retries x hx with hold | hnew
    · obtain ⟨type, dto, hretry, haudited⟩ := h.retries x hold
      exact ⟨type, dto, hretry, exists_audited_later haudited hstep.later⟩
    · exact hnew

/-! ## Answers -/

/-- Time passes. -/
theorem step_tick (s : AdminStore) (n : Nat) : Step env s₀ s { s with now := s.now + n } where
  later := { Later.refl s with now := Nat.le_add_right _ _ }
  sessions := .same rfl rfl rfl
  users := .same rfl rfl rfl rfl
  fixes := .same rfl rfl

/-- A lookup finds a row of the table. -/
theorem lookup_cases {matching : UserEntity → Bool} {reply : AdminReply} {found : Option UserEntity}
    (h : s.lookup matching reply = some (found, s')) :
    (found = none ∧ s' = s) ∨ ∃ u ∈ s.users, matching u = true ∧ found = some u ∧
      s' = { s with rowsRead := u :: s.rowsRead } := by
  unfold lookup at h
  split at h
  · split at h
    · next user hfind =>
      cases h
      have hmatch := List.find?_some hfind
      simp only [Bool.decide_and, Bool.and_eq_true, decide_eq_true_eq] at hmatch
      exact .inr ⟨user, List.mem_of_find?_eq_some hfind, by simpa using hmatch.2, rfl, rfl⟩
    · cases h
  · split at h
    · cases h
    · cases h
      exact .inl ⟨rfl, rfl⟩
  · cases h

theorem step_readRow (h : Sound env s₀ s) {u : UserEntity} (hu : u ∈ s.users) :
    Step env s₀ s { s with rowsRead := u :: s.rowsRead } := by
  have hlater : s.Later { s with rowsRead := u :: s.rowsRead } :=
    { Later.refl s with rowsRead := List.subset_cons_self _ _ }
  refine ⟨hlater, .same rfl rfl rfl, ?_, .same rfl rfl⟩
  refine ⟨id, id, id, fun _ => .inl, fun v hv => ?_, fun _ => .inl, fun _ => .inl⟩
  rcases List.mem_cons.1 hv with rfl | hv
  · exact .inr ((h.users v hu).later hlater)
  · exact .inl hv

theorem step_lookup (h : Sound env s₀ s) {matching : UserEntity → Bool} {reply : AdminReply}
    {found : Option UserEntity} (hlookup : s.lookup matching reply = some (found, s')) :
    Step env s₀ s s' ∧ ∀ u, found = some u → u ∈ s'.rowsRead ∧ matching u = true := by
  rcases lookup_cases hlookup with ⟨rfl, rfl⟩ | ⟨user, huser, hmatch, rfl, rfl⟩
  · exact ⟨.refl _, fun u hu => by cases hu⟩
  · refine ⟨step_readRow h huser, ?_⟩
    rintro u ⟨⟩
    exact ⟨List.mem_cons_self, hmatch⟩

theorem step_redisGet (h : Sound env s₀ s) (key : JsString) :
    Step env s₀ s (s.redisGet key).2 ∧
      ∀ i, (s.redisGet key).1 = some i → ∃ g ∈ (s.redisGet key).2.sessionsRead,
        g.key = key ∧ g.info = i := by
  unfold redisGet
  split
  · exact ⟨.refl _, fun i hi => by cases hi⟩
  · next entry hentry =>
    split
    · next halive =>
      obtain ⟨w, hw, hkey, hinfo, hexpires⟩ := h.redis key entry hentry
      refine ⟨⟨{ Later.refl s with sessionsRead := List.subset_cons_self _ _ },
        ⟨fun _ _ => .inl, fun _ => .inl, ?_⟩, .same rfl rfl rfl rfl, .same rfl rfl⟩, ?_⟩
      · intro g hg
        rcases List.mem_cons.1 hg with rfl | hg
        · rw [hexpires] at halive
          exact .inr ⟨w, hw, hkey, hinfo, (h.written w hw).1, halive⟩
        · exact .inl hg
      · rintro i ⟨⟩
        exact ⟨_, List.mem_cons_self, rfl, rfl⟩
    · exact ⟨.refl _, fun i hi => by cases hi⟩

theorem step_redisSet {key : JsString} {value : AdminAuthInfo} {EX : Nat}
    (hEX : EX = EXPIRED_TIME_REDIS) (hkey : key = VerifyHelper.getAdminKey value.token)
    (hlogin : s.LoggedIn env value s.now) :
    Step env s₀ s (s.redisSet key value EX) := by
  have hlater : s.Later (s.redisSet key value EX) :=
    { Later.refl s with sessionsWritten := List.subset_cons_self _ _ }
  refine ⟨hlater, ⟨?_, ?_, fun _ => .inl⟩, .same rfl rfl rfl rfl, .same rfl rfl⟩
  · intro key' entry hentry
    by_cases hsame : key' = key
    · subst hsame
      simp only [redisSet, Function.update_self, Option.some.injEq] at hentry
      subst hentry hEX
      exact .inr ⟨_, List.mem_cons_self, rfl, rfl, rfl⟩
    · simp only [redisSet, Function.update_of_ne hsame] at hentry
      exact .inl hentry
  · intro w hw
    rcases List.mem_cons.1 hw with rfl | hw
    · exact .inr ⟨Nat.le_refl _, hkey, hlogin.later hlater (Nat.le_refl _)⟩
    · exact .inl hw

/-- A row is saved over the row with its id. -/
theorem step_saveUser (h : Sound env s₀ s) {user : UserEntity} (huser : KnownUser s₀ s user) :
    Step env s₀ s (s.saveUser user) := by
  have hlater : s.Later (s.saveUser user) := { Later.refl s with }
  refine ⟨hlater, .same rfl rfl rfl, ?_, .same rfl rfl⟩
  refine ⟨id, id, fun hrows => ?_, fun u hu => ?_, fun _ => .inl, fun _ => .inl, fun _ => .inl⟩
  · -- the row with the id is the row of the same user, because ids are unique
    obtain ⟨v, hv, hsame⟩ := huser.same
    have hids : ((origins s₀ s).map (·.id)).Nodup := h.ids
    refine List.forall₂_map_right_iff.2 (((List.forall₂_and_left _ _).2 ⟨fun _ h => h, hrows⟩).imp ?_)
    rintro w u ⟨hw, hwu⟩
    split
    · next hid =>
      have hsameId : w.id = v.id := by rw [← hwu.id, hid, hsame.id]
      have hwv : w = v := List.inj_on_of_nodup_map hids hw hv hsameId
      rw [hwv]
      exact hsame
    · exact hwu
  · obtain ⟨u', hu', rfl⟩ := List.mem_map.1 hu
    split
    · exact .inr (huser.later hlater)
    · exact .inl hu'

theorem exists_mem_of_forall₂ {α β : Type} {R : α → β → Prop} {as : List α} {bs : List β}
    (h : List.Forall₂ R as bs) {a : α} (ha : a ∈ as) : ∃ b ∈ bs, R a b := by
  induction h with
  | nil => cases ha
  | cons hab _ ih =>
    rcases List.mem_cons.1 ha with rfl | ha
    · exact ⟨_, List.mem_cons_self, hab⟩
    · obtain ⟨b, hb, hR⟩ := ih ha
      exact ⟨b, List.mem_cons_of_mem _ hb, hR⟩

/-- A row that differs from all rows of the table in a column is the first with its value. -/
theorem nodup_append_row {κ : Type} {column : UserEntity → κ} {row : UserEntity}
    (h : Sound env s₀ s) (hsame : ∀ u v, UserEntity.SameUser u v → column v = column u)
    (hne : ∀ u ∈ s.users, column u ≠ column row) (hnodup : ((origins s₀ s).map column).Nodup) :
    ((origins s₀ s ++ [row]).map column).Nodup := by
  rw [List.map_append, List.nodup_append]
  refine ⟨hnodup, List.nodup_singleton _, ?_⟩
  rintro i hi j hj rfl
  obtain ⟨v, hv, rfl⟩ := List.mem_map.1 hi
  obtain ⟨u, hu, huv⟩ := exists_mem_of_forall₂ h.rows hv
  refine hne u hu ?_
  rw [hsame v u huv]
  exact List.mem_singleton.1 hj

theorem step_insertUser (h : Sound env s₀ s) {user : NewUser} {id : Nat}
    (huser : user.role = .ADMIN ∧ user.status = .START ∧ env.isVaildSHA256 user.password = true ∧
      s.SuperAdminSession env) (hinsert : s.insertUser env user id = some s') :
    Step env s₀ s s' := by
  unfold insertUser at hinsert
  split at hinsert
  · cases hinsert
  next loginName hname =>
  split at hinsert
  · cases hinsert
  next hfresh =>
  cases hinsert
  obtain ⟨hrole, hstatus, hsha, hadmin⟩ := huser
  have hnew : ∀ u ∈ s.users, u.id ≠ id ∧ env.collation u.loginName ≠ env.collation loginName := by
    simpa using hfresh
  have hlater : s.Later { s with
      users := s.users ++ [user.entity id loginName]
      created := s.created ++ [user.entity id loginName] } :=
    { Later.refl s with created := List.subset_append_left _ _ }
  have horigins : origins s₀ { s with
      users := s.users ++ [user.entity id loginName]
      created := s.created ++ [user.entity id loginName] } =
      origins s₀ s ++ [user.entity id loginName] := (List.append_assoc ..).symm
  refine ⟨hlater, .same rfl rfl rfl, ?_, .same rfl rfl⟩
  refine ⟨?_, ?_, ?_, ?_, fun _ => .inl, ?_, fun _ => .inl⟩
  · intro hids
    rw [horigins]
    exact nodup_append_row h (fun u v huv => huv.id) (fun u hu => (hnew u hu).1) hids
  · intro hnames
    rw [horigins]
    refine nodup_append_row h (fun u v huv => ?_) (fun u hu => (hnew u hu).2) hnames
    rw [huv.loginName]
  · intro hrows
    rw [horigins]
    exact List.rel_append hrows (.cons ⟨rfl, rfl, rfl, rfl, rfl⟩ .nil)
  · intro u hu
    rcases List.mem_append.1 hu with hu | hu
    · exact .inl hu
    · obtain rfl := List.mem_singleton.1 hu
      have horigin : user.entity id loginName ∈ origins s₀ { s with
          users := s.users ++ [user.entity id loginName]
          created := s.created ++ [user.entity id loginName] } := by
        rw [horigins]
        exact List.mem_append_right _ hu
      exact .inr ⟨⟨_, horigin, rfl, rfl, rfl, rfl, rfl⟩, .inl ⟨_, horigin, rfl, rfl⟩⟩
  · intro u hu
    rcases List.mem_append.1 hu with hu | hu
    · exact .inl hu
    · obtain rfl := List.mem_singleton.1 hu
      exact .inr ⟨hrole, hstatus, hsha, hadmin.later hlater⟩

/-- The rows of operate records later have the ids of those before. -/
theorem Later.exists_id (h : s.Later s') {r : OperateRecordEntity} (hr : r ∈ s.operateRecords) :
    ∃ r' ∈ s'.operateRecords, r'.id = r.id := by
  rcases h.operateRecords r hr with hr | hr
  · exact ⟨r, hr, rfl⟩
  · exact ⟨r.success, hr, rfl⟩

theorem step_insertOperateRecord (h : Sound env s₀ s) {record : NewOperateRecord} {id : Nat}
    {row : OperateRecordEntity} (hrecord : record.result = false)
    (hinsert : s.insertOperateRecord record id = some (row, s')) :
    Step env s₀ s s' ∧ AdminOp.Told env s₀ s' (.insertOperateRecord record) row := by
  unfold insertOperateRecord at hinsert
  split at hinsert
  · cases hinsert
  next loginName hname =>
  split at hinsert
  · cases hinsert
  next hfresh =>
  cases hinsert
  have hnew : ∀ r ∈ s.operateRecords, r.id ≠ id := by simpa using hfresh
  refine ⟨⟨?_, .same rfl rfl rfl, .same rfl rfl rfl rfl, ⟨?_, ?_, fun _ => .inl⟩⟩, .inl ?_, ?_,
    hname, rfl⟩
  · exact { Later.refl s with operateRecords := fun r hr => .inl (List.mem_append_left _ hr) }
  · intro hids
    rw [List.map_append, List.nodup_append]
    refine ⟨hids, List.nodup_singleton _, ?_⟩
    rintro i hi j hj rfl
    obtain ⟨r, hr, rfl⟩ := List.mem_map.1 hi
    exact hnew r hr (List.mem_singleton.1 hj)
  · intro r hr
    rcases List.mem_append.1 hr with hr | hr
    · exact .inl hr
    · obtain rfl := List.mem_singleton.1 hr
      refine .inr fun hresult => ?_
      rw [NewOperateRecord.entity, hrecord] at hresult
      cases hresult
  · exact List.mem_append_right _ (List.mem_singleton_self _)
  · intro r₀ hr₀ hid
    obtain ⟨r, hr, hsame⟩ := h.later.exists_id hr₀
    exact hnew r hr (hsame.trans hid)

theorem step_saveOperateRecord (h : Sound env s₀ s) {record : OperateRecordEntity}
    (hrecord : AdminOp.Justified env s₀ s (.saveOperateRecord record)) :
    Step env s₀ s (s.saveOperateRecord record) ∧
      AdminOp.Told env s₀ (s.saveOperateRecord record) (.saveOperateRecord record) () := by
  obtain ⟨hresult, hfixed, r, hr, rfl⟩ := hrecord
  have hsaved : r.success ∈ (s.saveOperateRecord r.success).operateRecords :=
    List.mem_map.2 ⟨r, hr, if_pos rfl⟩
  have hlater : s.Later (s.saveOperateRecord r.success) := by
    refine { Later.refl s with operateRecords := fun q hq => ?_ }
    by_cases hid : q.id = r.success.id
    · obtain rfl : q = r := List.inj_on_of_nodup_map h.recordIds hq hr hid
      exact .inr hsaved
    · exact .inl (List.mem_map.2 ⟨q, hq, if_neg hid⟩)
  refine ⟨⟨hlater, .same rfl rfl rfl, .same rfl rfl rfl rfl, ⟨?_, ?_, fun _ => .inl⟩⟩, hsaved⟩
  · intro hids
    have hsame : (s.saveOperateRecord r.success).operateRecords.map (·.id) =
        s.operateRecords.map (·.id) := by
      rw [saveOperateRecord, List.map_map]
      refine List.map_congr_left fun q _ => ?_
      simp only [Function.comp]
      split
      · next hid => exact hid.symm
      · rfl
    rw [hsame]
    exact hids
  · intro q hq
    obtain ⟨p, hp, rfl⟩ := List.mem_map.1 hq
    split
    · exact .inr fun _ => hfixed.later hlater
    · exact .inl hp

theorem step_retry {call : RetryCall} (returned : Option Bool)
    (hcall : AdminOp.Justified env s₀ s (.retry call)) :
    Step env s₀ s { s with retries := ⟨call, returned⟩ :: s.retries } := by
  have hlater : s.Later { s with retries := ⟨call, returned⟩ :: s.retries } :=
    { Later.refl s with retries := List.subset_cons_self _ _ }
  refine ⟨hlater, .same rfl rfl rfl, .same rfl rfl rfl rfl, id, fun _ => .inl, fun x hx => ?_⟩
  rcases List.mem_cons.1 hx with rfl | hx
  · obtain ⟨type, dto, hretry, haudited⟩ := hcall
    exact .inr ⟨type, dto, hretry, exists_audited_later haudited hlater⟩
  · exact .inl hx

/-- A call that is justified is replied to in a step, and the reply tells what it should. -/
theorem step_reply (h : Sound env s₀ s) {op : AdminOp} (hop : op.Justified env s₀ s)
    {reply : AdminReply} {r : Except Err op.Ans} (hans : op.reply env reply s = some (r, s')) :
    Step env s₀ s s' ∧ ∀ a, r = .ok a → op.Told env s₀ s' a := by
  have hfailed : s' = s → (∀ a, r ≠ .ok a) → Step env s₀ s s' ∧ ∀ a, r = .ok a →
      op.Told env s₀ s' a := by
    rintro rfl hr
    exact ⟨.refl _, fun a ha => absurd ha (hr a)⟩
  cases op with
  | redisGet key =>
    cases reply <;> cases hans
    · exact hfailed rfl nofun
    · obtain ⟨hstep, htold⟩ := step_redisGet h key
      exact ⟨hstep, fun _ ha => by cases ha; exact htold⟩
  | redisSet key value EX =>
    cases reply <;> cases hans
    · exact hfailed rfl nofun
    · exact ⟨step_redisSet hop.1 hop.2.1 hop.2.2, fun _ _ => trivial⟩
  | findOneBy loginName status =>
    cases reply with
    | fails e =>
      cases hans
      exact hfailed rfl nofun
    | flag b => cases hans
    | _ =>
      obtain ⟨⟨found, t⟩, hlookup, heq⟩ := Option.map_eq_some_iff.1 hans
      cases heq
      obtain ⟨hstep, htold⟩ := step_lookup h hlookup
      refine ⟨hstep, ?_⟩
      rintro _ ⟨⟩ u hu
      obtain ⟨hread, hmatch⟩ := htold u hu
      exact ⟨hread, by simpa using hmatch⟩
  | findOneForce loginName =>
    cases reply with
    | fails e =>
      cases hans
      exact hfailed rfl nofun
    | flag b => cases hans
    | _ =>
      obtain ⟨⟨found, t⟩, hlookup, heq⟩ := Option.map_eq_some_iff.1 hans
      obtain ⟨hstep, htold⟩ := step_lookup h hlookup
      cases found with
      | none =>
        cases heq
        exact ⟨hstep, nofun⟩
      | some user =>
        cases heq
        refine ⟨hstep, ?_⟩
        rintro _ ⟨⟩
        exact htold user rfl
  | saveUser user =>
    cases reply <;> cases hans
    · exact hfailed rfl nofun
    · exact ⟨step_saveUser h hop, fun _ _ => trivial⟩
  | insertUser user =>
    cases reply with
    | fails e =>
      cases hans
      exact hfailed rfl nofun
    | row id =>
      obtain ⟨t, hinsert, heq⟩ := Option.map_eq_some_iff.1 hans
      cases heq
      exact ⟨step_insertUser h hop hinsert, fun _ _ => trivial⟩
    | _ => cases hans
  | insertOperateRecord record =>
    cases reply with
    | fails e =>
      cases hans
      exact hfailed rfl nofun
    | row id =>
      obtain ⟨⟨row, t⟩, hinsert, heq⟩ := Option.map_eq_some_iff.1 hans
      cases heq
      obtain ⟨hstep, htold⟩ := step_insertOperateRecord h hop.1 hinsert
      refine ⟨hstep, ?_⟩
      rintro _ ⟨⟩
      exact htold
    | _ => cases hans
  | saveOperateRecord record =>
    cases reply <;> cases hans
    · exact hfailed rfl nofun
    · obtain ⟨hstep, htold⟩ := step_saveOperateRecord h hop
      exact ⟨hstep, fun _ _ => htold⟩
  | retry call =>
    cases reply <;> cases hans
    · exact ⟨step_retry none hop, nofun⟩
    · refine ⟨step_retry _ hop, fun a ha => ?_⟩
      cases ha
      exact List.mem_cons_self

/-- An answer is a tick and a reply. -/
theorem sound_answer (h : Sound env s₀ s) {op : AdminOp} (hop : op.Justified env s₀ s)
    {choice : AdminChoice} {r : Except Err op.Ans} (hans : op.answer env choice s = some (r, s')) :
    Sound env s₀ s' ∧ s.Later s' ∧ ∀ a, r = .ok a → op.Told env s₀ s' a := by
  have htick : Step env s₀ s { s with now := s.now + choice.elapsed } := step_tick s _
  have htime := htick.sound h
  obtain ⟨hstep, htold⟩ := step_reply htime (hop.later htick.later) hans
  exact ⟨hstep.sound htime, htick.later.trans hstep.later, htold⟩

end AdminStore

end CotServer
