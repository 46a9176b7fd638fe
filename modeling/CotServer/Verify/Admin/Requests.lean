import CotServer.Theory.Requests
import CotServer.Verify.Admin.Store

/-!
# What requests of administrators establish

Every call that the handlers make is justified, so the store is sound in every run. A request that
needs a session has read one when it returns, and a fix that returns leaves its record.
-/

namespace CotServer

open Async AdminStore

/-- The store stays sound and moves to later stores. -/
def adminLogic (env : AdminEnv) (s₀ : AdminStore) :
    Logic (Program.calls (AdminOp.answer env) (AdminRequest.handler env)) where
  Inv := Sound env s₀
  Rel := Later
  Allowed _ _ := True
  refl := .refl
  trans := .trans

/-- `auth` is the session that has been read for the header. -/
def CurrentAdmin.ReadBy (authorization : Option JsString) (s : AdminStore) (auth : CurrentAdmin) :
    Prop :=
  ∃ token, authorization.bind bearerToken = some token ∧
    ∃ g ∈ s.sessionsRead, g.key = VerifyHelper.getAdminKey token ∧ auth = some g.info

/-- A fix has been recorded, and the record says that it has succeeded. -/
def AdminStore.FixRecorded (type : ORDER_TYPE) (authorization : Option JsString)
    (dto : FixOrderReqDto) (s₀ s : AdminStore) : Prop :=
  ∃ auth, CurrentAdmin.ReadBy authorization s auth ∧ ∃ r ∈ s.operateRecords, r.result = true ∧
    r.Names type dto ∧ auth.loginName = some r.loginName ∧ ∀ r₀ ∈ s₀.operateRecords, r₀.id ≠ r.id

/-- What a request has established when it returns. -/
def AdminRequest.Done (req : AdminRequest) (s₀ s : AdminStore) : Prop :=
  match req with
  | login .. => True
  | createUser authorization _ | updateUser authorization _ =>
    ∃ auth, CurrentAdmin.ReadBy authorization s auth
  | fixRechargeOrder authorization dto => FixRecorded .RECHARGE authorization dto s₀ s
  | fixRedemptionOrder authorization dto => FixRecorded .REDEMPTION authorization dto s₀ s

variable {env : AdminEnv} {s₀ s s' : AdminStore} {req : AdminRequest}
variable {authorization : Option JsString} {auth : CurrentAdmin}

theorem CurrentAdmin.ReadBy.later (h : CurrentAdmin.ReadBy authorization s auth)
    (hs : s.Later s') : CurrentAdmin.ReadBy authorization s' auth := by
  obtain ⟨token, htoken, g, hg, hkey⟩ := h
  exact ⟨token, htoken, g, hs.sessionsRead hg, hkey⟩

theorem CurrentAdmin.ReadBy.sessionOf (h : CurrentAdmin.ReadBy authorization s auth) :
    s.SessionOf auth.loginName := by
  obtain ⟨token, -, g, hg, -, rfl⟩ := h
  exact ⟨g, hg, rfl⟩

theorem AdminStore.FixRecorded.later {type : ORDER_TYPE} {dto : FixOrderReqDto}
    (h : FixRecorded type authorization dto s₀ s) (hs : s.Later s') :
    FixRecorded type authorization dto s₀ s' := by
  obtain ⟨auth, hread, r, hr, hresult, hrest⟩ := h
  refine ⟨auth, hread.later hs, r, ?_, hresult, hrest⟩
  have hsame := hs.operateRecords r hr
  rwa [OperateRecordEntity.success_eq_of_result hresult, or_self] at hsame

theorem AdminRequest.Done.later (h : req.Done s₀ s) (hs : s.Later s') : req.Done s₀ s' := by
  cases req with
  | login authorization dto => trivial
  | createUser authorization dto | updateUser authorization dto =>
    obtain ⟨auth, hread⟩ := h
    exact ⟨auth, hread.later hs⟩
  | fixRechargeOrder authorization dto | fixRedemptionOrder authorization dto =>
    exact FixRecorded.later h hs

/-! ## Calls -/

/-- A call of an operation that is justified. -/
theorem triple_admin (op : AdminOp) (hI : Sound env s₀ s) (hop : op.Justified env s₀ s) :
    (adminLogic env s₀).Triple (Async.call (req, op)) s (fun a t => op.Told env s₀ t a) := by
  refine Logic.triple_call (G := fun r t => ∀ a, r = .ok a → op.Told env s₀ t a) hI ?_ ?_
  · intro t hst hI' choice r u hans _
    obtain ⟨hsound, hlater, htold⟩ := sound_answer hI' (hop.later hst) hans
    exact ⟨⟨hsound, hlater⟩, htold⟩
  · intro a t u hG htu _ _
    exact (hG a rfl).later htu

/-- An update of a history. -/
theorem triple_history {f : AdminStore → AdminStore} {Q : Unit → AdminStore → Prop}
    (hI : Sound env s₀ s) (h : Step env s₀ s (f s)) (hQ : Q () (f s)) :
    (adminLogic env s₀).Triple (update f) s Q :=
  Logic.triple_update ⟨h.sound hI, h.later⟩ hQ

theorem triple_AdminAuthorization (required : Bool) (hI : Sound env s₀ s) :
    (adminLogic env s₀).Triple ((AdminAuthorization required authorization).tagged req) s
      fun auth t => required = true → CurrentAdmin.ReadBy authorization t auth := by
  unfold AdminAuthorization
  split
  · next token htoken =>
    simp only [tagged_bind, tagged_call, tagged_throwIf, tagged_pure]
    refine (triple_admin (.redisGet _) hI trivial).bind fun authInfo t _ hI htold => ?_
    refine (Logic.triple_throwIf (Q := fun _ t => required = true →
      CurrentAdmin.ReadBy authorization t authInfo) hI fun hfound hrequired => ?_).bind
      fun _ u _ hI hread => Logic.triple_pure hI hread
    obtain ⟨info, rfl⟩ := Option.ne_none_iff_exists'.1 fun h => hfound ⟨hrequired, h⟩
    obtain ⟨g, hg, hkey, rfl⟩ := htold info rfl
    exact ⟨token, htoken, g, hg, hkey, rfl⟩
  · simp only [tagged_bind, tagged_throwIf, tagged_pure]
    refine (Logic.triple_throwIf (Q := fun _ _ => required ≠ true) hI id).bind
      fun _ u _ hI hnot => Logic.triple_pure hI fun h => absurd h hnot

/-! ## Functions of `UserService` -/

/-- The row that a login saves is that of a known user. -/
theorem AdminStore.KnownUser.withLoginTime {u : UserEntity} (h : KnownUser s₀ s u) (time : Nat) :
    KnownUser s₀ s { u with loginTime := some time } where
  same := by
    obtain ⟨v, hv, hsame⟩ := h.same
    exact ⟨v, hv, hsame.id, hsame.loginName, hsame.nickName, hsame.status, hsame.role⟩
  password := h.password

/-- The row that an update saves is that of a known user. -/
theorem AdminStore.KnownUser.withPassword {u : UserEntity} {password : JsString}
    (h : KnownUser s₀ s u) (hpassword : password = u.password ∨
      ∃ c ∈ s.changes, c.user.id = u.id ∧ c.dto.newPassword = some password) :
    KnownUser s₀ s { u with password } where
  same := by
    obtain ⟨v, hv, hsame⟩ := h.same
    exact ⟨v, hv, hsame.id, hsame.loginName, hsame.nickName, hsame.status, hsame.role⟩
  password := by
    rcases hpassword with rfl | hchange
    · exact h.password
    · exact .inr hchange

theorem triple_login {dto : LoginReqDto} (hI : Sound env s₀ s) :
    (adminLogic env s₀).Triple ((UserService.login env dto).tagged req) s fun _ _ => True := by
  unfold UserService.login UserService.saveUser
  simp only [tagged_bind, tagged_call]
  refine (triple_admin (.findOneBy _ _) hI trivial).bind fun user t _ hI hfound => ?_
  cases user with
  | none => exact Logic.triple_throw hI
  | some user =>
    obtain ⟨hread, hnamed, hstatus⟩ := hfound user rfl
    simp only [tagged_bind, tagged_call, tagged_throwIf, tagged_pure, tagged_store, tagged_update]
    refine (Logic.triple_throwIf (Q := fun _ _ => dto.password = some user.password) hI
      Decidable.not_not.1).bind fun _ u htu hI hpassword => ?_
    refine Logic.triple_store ?_
    have hstep : Step env s₀ u { u with logins := ⟨user, dto, u.now⟩ :: u.logins } :=
      ⟨{ Later.refl u with logins := List.subset_cons_self _ _ }, .same rfl rfl rfl,
        .same rfl rfl rfl rfl, .same rfl rfl⟩
    have hreadLater : user ∈ u.rowsRead := Later.rowsRead htu hread
    refine (triple_history (Q := fun _ v => user ∈ v.rowsRead ∧
      v.LoggedIn env (PassedLogin.session env ⟨user, dto, u.now⟩) v.now) hI hstep ?_).bind
      fun _ v _ hI ⟨hread, hlogin⟩ => ?_
    · exact ⟨hreadLater, _, List.mem_cons_self, Nat.le_refl _, rfl, hreadLater, hstatus, hnamed,
        hpassword⟩
    refine (triple_admin (.redisSet ..) hI ⟨rfl, rfl, hlogin⟩).bind fun _ w hvw hI _ => ?_
    refine Logic.triple_store ?_
    have hknown : KnownUser s₀ w user := hI.rowsRead user (Later.rowsRead hvw hread)
    exact (triple_admin (.saveUser _) hI (hknown.withLoginTime _)).bind
      fun _ _ _ hI _ => Logic.triple_pure hI trivial

theorem triple_createUser {dto : CreateUserReqDto} (hI : Sound env s₀ s)
    (hauth : s.SessionOf auth.loginName) :
    (adminLogic env s₀).Triple ((UserService.createUser env auth dto).tagged req) s fun _ _ => True := by
  unfold UserService.createUser UserService.findOneForce
  simp only [tagged_bind, tagged_call, tagged_throwIf]
  refine (triple_admin (.findOneForce _) hI trivial).bind
    fun checkUser t hst hI ⟨hread, hnamed⟩ => ?_
  refine (Logic.triple_throwIf (Q := fun _ t => t.SuperAdminSession env) hI fun hrole => ?_).bind
    fun _ u _ hI hadmin => ?_
  · exact ⟨_, hauth.later hst, checkUser, hread, Decidable.not_not.1 hrole, hnamed⟩
  · split
    · exact Logic.triple_throw hI
    · next password hpassword =>
      have hsha : env.isVaildSHA256 password = true := (Option.filter_eq_some_iff.1 hpassword).2
      simp only [tagged_bind, tagged_call, tagged_pure]
      refine (triple_admin (.insertUser _) hI ⟨rfl, rfl, hsha, hadmin⟩).bind
        fun _ v _ hI _ => Logic.triple_pure hI trivial

/-- The password stays as it was, or is the new one of a change of the row. -/
theorem triple_newPassword {dto : UpdateUserReqDto} {user : UserEntity} (hI : Sound env s₀ s)
    (hauth : s.SessionOf auth.loginName) (hread : user ∈ s.rowsRead)
    (hnamed : user.named env auth.loginName = true) :
    (adminLogic env s₀).Triple ((UserService.newPassword env auth dto user).tagged req) s
      fun password t => password = user.password ∨
        ∃ c ∈ t.changes, c.user.id = user.id ∧ c.dto.newPassword = some password := by
  unfold UserService.newPassword
  split
  · exact Logic.triple_pure hI (.inl rfl)
  next oldPassword hold =>
  simp only [tagged_bind, tagged_throwIf]
  refine (Logic.triple_throwIf (Q := fun _ _ => True) hI fun _ => trivial).bind
    fun _ t hst hI _ => ?_
  refine (Logic.triple_throwIf (Q := fun _ _ => oldPassword = user.password) hI
    Decidable.not_not.1).bind fun _ u htu hI hsame => ?_
  have hlater : s.Later u := Later.trans hst htu
  split
  · exact Logic.triple_pure hI (.inl rfl)
  next newPassword hnew =>
  obtain ⟨hold, -⟩ := Option.filter_eq_some_iff.1 hold
  obtain ⟨hnew, -⟩ := Option.filter_eq_some_iff.1 hnew
  simp only [tagged_bind, tagged_throwIf, tagged_update, tagged_pure]
  refine (Logic.triple_throwIf (Q := fun _ v => env.isVaildSHA256 newPassword = true ∧
    s.Later v) hI fun hsha => ⟨by simpa using hsha, hlater⟩).bind fun _ v _ hI ⟨hsha, hsv⟩ => ?_
  have hstep : Step env s₀ v { v with changes := ⟨user, auth, dto⟩ :: v.changes } := by
    have hlater : v.Later { v with changes := ⟨user, auth, dto⟩ :: v.changes } :=
      { Later.refl v with changes := List.subset_cons_self _ _ }
    refine ⟨hlater, .same rfl rfl rfl, ?_, .same rfl rfl⟩
    refine ⟨id, id, id, fun _ => .inl, fun _ => .inl, fun _ => .inl, fun c hc => ?_⟩
    rcases List.mem_cons.1 hc with rfl | hc
    · refine .inr ⟨hsv.rowsRead hread, ?_, hnamed, hauth.later ?_, newPassword, hnew, hsha⟩
      · rw [hold, hsame]
      · exact hsv.trans hlater
    · exact .inl hc
  refine (triple_history (Q := fun _ w => ⟨user, auth, dto⟩ ∈ w.changes) hI hstep
    List.mem_cons_self).bind fun _ w _ hI hmem => Logic.triple_pure hI (.inr ?_)
  exact ⟨_, hmem, rfl, hnew⟩

theorem triple_updateUser {dto : UpdateUserReqDto} (hI : Sound env s₀ s)
    (hauth : s.SessionOf auth.loginName) :
    (adminLogic env s₀).Triple ((UserService.updateUser env auth dto).tagged req) s
      fun _ _ => True := by
  unfold UserService.updateUser UserService.findOneForce UserService.saveUser
  simp only [tagged_bind, tagged_call, tagged_pure]
  refine (triple_admin (.findOneForce _) hI trivial).bind
    fun user t hst hI ⟨hread, hnamed⟩ => ?_
  refine (triple_newPassword hI (hauth.later hst) hread hnamed).bind
    fun password u htu hI hpassword => ?_
  have hknown : KnownUser s₀ u user := hI.rowsRead user (Later.rowsRead htu hread)
  exact (triple_admin (.saveUser _) hI (hknown.withPassword hpassword)).bind
    fun _ _ _ hI _ => Logic.triple_pure hI trivial

/-! ## Fixes -/

theorem triple_fix {type : ORDER_TYPE} {dto : FixOrderReqDto} (hI : Sound env s₀ s)
    (haudited : ∃ r ∈ s.operateRecords, Audited s₀ s r type dto) :
    (adminLogic env s₀).Triple
      ((OrderService.fix (OrderService.retryOf type dto) dto).tagged req) s
      fun _ t => ∃ call b, OrderService.retryOf type dto = some call ∧ ⟨call, some b⟩ ∈ t.retries := by
  unfold OrderService.fix
  split
  · next call hcall =>
    rw [OrderService.retry, tagged_call]
    refine (triple_admin (.retry call) hI ⟨type, dto, hcall, haudited⟩).mono
      fun b t _ _ htold => ?_
    exact ⟨call, b, hcall, htold⟩
  · exact Logic.triple_throw hI

theorem triple_fixOrder (type : ORDER_TYPE) {dto : FixOrderReqDto} (hI : Sound env s₀ s) :
    (adminLogic env s₀).Triple ((OrderController.fixOrder env type authorization dto
      fun dto => OrderService.fix (OrderService.retryOf type dto) dto).tagged req) s
      fun _ t => FixRecorded type authorization dto s₀ t := by
  unfold OrderController.fixOrder UserService.saveOperateRecord UserService.operateRecordSuccess
  simp only [tagged_bind, tagged_call, tagged_pure]
  refine (triple_AdminAuthorization true hI).bind fun auth t _ hI hread => ?_
  have hread := hread rfl
  refine (triple_admin (.insertOperateRecord _) hI ⟨rfl, hread.sessionOf⟩).bind
    fun row u htu hI ⟨hmem, hfresh, hname, hrow⟩ => ?_
  have hnames : row.Names type dto := ⟨congrArg (·.api) hrow, congrArg (·.data) hrow⟩
  have hreadLater := hread.later htu
  have haudited : Audited s₀ u row type dto := ⟨hnames, hfresh, hname ▸ hreadLater.sessionOf⟩
  have hexists : ∃ r ∈ u.operateRecords, Audited s₀ u r type dto := by
    rcases hmem with hmem | hmem
    · exact ⟨row, hmem, haudited⟩
    · exact ⟨row.success, hmem, haudited.success⟩
  refine (triple_fix hI hexists).bind fun b v huv hI ⟨call, b', hcall, hretried⟩ => ?_
  have hsaved : ∃ r ∈ v.operateRecords, r.success = row.success := by
    rcases hmem with hmem | hmem
    · rcases Later.operateRecords huv row hmem with hmem | hmem
      · exact ⟨row, hmem, rfl⟩
      · exact ⟨row.success, hmem, rfl⟩
    · rcases Later.operateRecords huv _ hmem with hmem | hmem <;> exact ⟨_, hmem, rfl⟩
  have hfixed : v.Fixed row.success := ⟨type, dto, call, b', hnames.success, hcall, hretried⟩
  refine (triple_admin (.saveOperateRecord row.success) hI ⟨rfl, hfixed, hsaved⟩).bind
    fun _ w hvw hI htold => Logic.triple_pure hI ?_
  exact ⟨auth, (hreadLater.later huv).later hvw, row.success, htold, rfl, hnames.success, hname,
    hfresh⟩

/-! ## Handlers -/

theorem triple_handler (hI : Sound env s₀ s) :
    (adminLogic env s₀).Triple ((req.handler env).tagged req) s fun _ t => req.Done s₀ t := by
  cases req with
  | login authorization dto =>
    simp only [AdminRequest.handler, tagged_bind, tagged_pure]
    refine (triple_AdminAuthorization false hI).bind fun _ t _ hI _ => ?_
    exact (triple_login hI).bind fun _ u _ hI _ => Logic.triple_pure hI trivial
  | createUser authorization dto =>
    simp only [AdminRequest.handler, tagged_bind, tagged_pure]
    refine (triple_AdminAuthorization true hI).bind fun auth t _ hI hread => ?_
    have hread := hread rfl
    exact (triple_createUser hI hread.sessionOf).bind
      fun _ u htu hI _ => Logic.triple_pure hI ⟨auth, hread.later htu⟩
  | updateUser authorization dto =>
    simp only [AdminRequest.handler, tagged_bind, tagged_pure]
    refine (triple_AdminAuthorization true hI).bind fun auth t _ hI hread => ?_
    have hread := hread rfl
    exact (triple_updateUser hI hread.sessionOf).bind
      fun _ u htu hI _ => Logic.triple_pure hI ⟨auth, hread.later htu⟩
  | fixRechargeOrder authorization dto =>
    simp only [AdminRequest.handler, tagged_bind, tagged_pure]
    exact (triple_fixOrder .RECHARGE hI).bind
      fun _ t _ hI hdone => Logic.triple_pure hI hdone
  | fixRedemptionOrder authorization dto =>
    simp only [AdminRequest.handler, tagged_bind, tagged_pure]
    exact (triple_fixOrder .REDEMPTION hI).bind
      fun _ t _ hI hdone => Logic.triple_pure hI hdone

/-- A store in which the system can start: the table of users has unique ids and names, that of
operate records has unique ids, and the histories are empty. -/
structure AdminStore.Fresh (env : AdminEnv) (s : AdminStore) : Prop where
  redis : ∀ key, s.redis key = none
  rowsRead : s.rowsRead = []
  created : s.created = []
  sessionsWritten : s.sessionsWritten = []
  sessionsRead : s.sessionsRead = []
  changes : s.changes = []
  retries : s.retries = []
  ids : (s.users.map (·.id)).Nodup
  names : (s.users.map fun u => env.collation u.loginName).Nodup
  recordIds : (s.operateRecords.map (·.id)).Nodup

theorem AdminStore.Fresh.sound (h : s.Fresh env) : Sound env s s where
  later := .refl s
  redis key entry hentry := by
    rw [h.redis key] at hentry
    cases hentry
  written w hw := by
    rw [h.sessionsWritten] at hw
    cases hw
  read g hg := by
    rw [h.sessionsRead] at hg
    cases hg
  ids := by
    rw [origins, h.created, List.append_nil]
    exact h.ids
  names := by
    rw [origins, h.created, List.append_nil]
    exact h.names
  rows := by
    rw [origins, h.created, List.append_nil]
    exact List.forall₂_same.2 fun u _ => ⟨rfl, rfl, rfl, rfl, rfl⟩
  users u hu := ⟨⟨u, List.mem_append_left _ hu, rfl, rfl, rfl, rfl, rfl⟩,
    .inl ⟨u, List.mem_append_left _ hu, rfl, rfl⟩⟩
  rowsRead u hu := by
    rw [h.rowsRead] at hu
    cases hu
  created u hu := by
    rw [h.created] at hu
    cases hu
  changes c hc := by
    rw [h.changes] at hc
    cases hc
  recordIds := h.recordIds
  results r hr _ := .inl hr
  retries x hx := by
    rw [h.retries] at hx
    cases hx

/-- The store of every run is sound, and requests that have returned have established what they
should. -/
theorem sound_of_run (h : s₀.Fresh env) {ls : List (Label AdminRequest AdminChoice)}
    {c : Pool (Recorded AdminStore (AdminRequest × AdminResponse)) _ Err AdminRequest}
    (hrun : (adminProgram env).system.run ⟨⟨s₀, []⟩, []⟩ ls = some c) :
    Sound env s₀ c.store.store ∧ ∀ x ∈ c.store.record, x.1.Done s₀ c.store.store := by
  have hstable : ∀ (req : AdminRequest) (_ : AdminResponse) t u, Later t u → req.Done s₀ t →
      req.Done s₀ u := fun _ _ _ _ hlater h => h.later hlater
  exact Logic.requests_sound (L := adminLogic env s₀) hstable (fun _ _ hI => triple_handler hI)
    h.sound hrun ((System.meets_true _ _).mono fun _ _ _ _ _ => trivial)

end CotServer
