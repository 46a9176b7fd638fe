import CotServer.Verify.Admin.Requests

/-!
# Sessions, users, passwords and fixes in every run

What holds of every run of administrators' requests, however they interleave and whichever calls
fail: a session goes back to a login with the right password, users are only created for super
administrators, passwords are only those that users were given, and no fix is made without a record
of it.
-/

namespace CotServer

open Async AdminStore

/-! ## The record of a fix names it -/

theorem FixOrderReqDto.stringify_inj {dto dto' : FixOrderReqDto}
    (h : dto.stringify = dto'.stringify) : dto = dto' := by
  obtain ⟨entityId, fixType⟩ := dto
  obtain ⟨entityId', fixType'⟩ := dto'
  -- the texts differ where a field of only one of them would begin
  have hentityId : js "\"entityId\":" = 0x22 :: 0x65 :: js "ntityId\":" := by decide
  have hfixType : js "\"fixType\":" = 0x22 :: 0x66 :: js "ixType\":" := by decide
  have hcomma : js "," = [0x2C] := by decide
  have hbrace : js "\x7d" = [0x7D] := by decide
  cases entityId <;> cases fixType <;> cases entityId' <;> cases fixType' <;>
    simp [stringify, fields, List.intercalate, List.intersperse, hentityId, hfixType, hbrace,
      hcomma] at h
  case none.none.none.none => rfl
  case none.some.none.some => rw [jsNat_inj h]
  case some.none.some.none => rw [(JsString.quote_append_inj (congrArg (· ++ []) h)).1]
  case some.none.some.some =>
    have hrest := (JsString.quote_append_inj h).2
    simp at hrest
  case some.some.some.none =>
    have hrest := (JsString.quote_append_inj h).2
    simp at hrest
  case some.some.some.some =>
    obtain ⟨rfl, hrest⟩ := JsString.quote_append_inj h
    have hnat := jsNat_inj (by simpa using hrest)
    rw [hnat]

/-- A row names one fix. -/
theorem OperateRecordEntity.Names.unique {r : OperateRecordEntity} {type type' : ORDER_TYPE}
    {dto dto' : FixOrderReqDto} (h : r.Names type dto) (h' : r.Names type' dto') :
    type = type' ∧ dto = dto' := by
  constructor
  · have hapi : type.api = type'.api := h.api.symm.trans h'.api
    cases type <;> cases type' <;> first | rfl | exact absurd hapi (by decide)
  · have hdata : JsString.quote dto.stringify = JsString.quote dto'.stringify :=
      h.data.symm.trans h'.data
    exact FixOrderReqDto.stringify_inj (JsString.quote_append_inj (congrArg (· ++ []) hdata)).1

/-! ## Runs -/

variable (env : AdminEnv) {s₀ s : AdminStore} {ls : List (Label AdminRequest AdminChoice)}
variable {c : Pool (Recorded AdminStore (AdminRequest × AdminResponse))
  (fun x : AdminRequest × AdminOp => x.2.Ans) Err AdminRequest}

variable {env}

namespace Sample

/-- Tokens are the name and the time of the login. -/
def adminEnv : AdminEnv where
  sign loginName _ iat := loginName.getD [] ++ js "." ++ jsNat iat
  isVaildSHA256 s := s.length = 64 ∧ s.all fun c =>
    (0x30 ≤ c ∧ c ≤ 0x39) ∨ (0x41 ≤ c ∧ c ≤ 0x46) ∨ (0x61 ≤ c ∧ c ≤ 0x66)
  collation s := s.map fun c => if 0x41 ≤ c ∧ c ≤ 0x5A then c + 32 else c
  VERSION := js "1.0.0"

/-- A password hash of one digit. -/
def hash (digit : UInt16) : JsString := List.replicate 64 digit

/-- A table with one super administrator. -/
def oneAdmin : AdminStore where
  users := [{ id := 1, loginName := js "root", password := hash 0x61, status := .START
              role := .SUPER_ADMIN }]

/-- A login, a fix, a new user and a new password, in the same session. -/
def adminRun : List (Label AdminRequest AdminChoice) :=
  let authorization := some (js "Bearer root.0")
  let reply (r : AdminReply) : List (Label AdminRequest AdminChoice) :=
    Program.awaits 0 { elapsed := 10, reply := r } 1
  .event (.login none ⟨some (js "root"), some (hash 0x61)⟩) :: reply (.row 1) ++ reply .done ++
    reply .done ++
  .event (.fixRechargeOrder authorization ⟨some (js "order"), some 1⟩) :: reply .done ++
    reply (.row 7) ++ reply (.flag true) ++ reply .done ++
  .event (.createUser authorization ⟨some (js "clerk"), some (js "Clerk"), some (hash 0x62)⟩) ::
    reply .done ++ reply (.row 1) ++ reply (.row 2) ++
  .event (.updateUser authorization ⟨some (hash 0x61), some (hash 0x63)⟩) :: reply .done ++
    reply (.row 1) ++ reply .done

theorem fresh_oneAdmin : oneAdmin.Fresh adminEnv where
  redis _ := rfl
  rowsRead := rfl
  created := rfl
  sessionsWritten := rfl
  sessionsRead := rfl
  changes := rfl
  retries := rfl
  ids := by decide
  names := by decide
  recordIds := by decide

/-- The sample runs to its end. -/
theorem exists_adminRun :
    ∃ c, (adminProgram adminEnv).system.run ⟨⟨oneAdmin, []⟩, []⟩ adminRun = some c ∧
      c.store.record.length = 4 ∧ c.store.store.created.length = 1 ∧
      c.store.store.users.map (·.password) = [hash 0x63, hash 0x62] ∧
      c.store.store.retries = [⟨.rechargeExternalOnChain (some (js "order")), some true⟩] := by
  obtain ⟨c, hrun, hend⟩ := System.exists_run (adminProgram adminEnv).system
    ⟨⟨oneAdmin, []⟩, []⟩ adminRun
    (fun c => c.store.record.length = 4 ∧ c.store.store.created.length = 1 ∧
      c.store.store.users.map (·.password) = [hash 0x63, hash 0x62] ∧
      c.store.store.retries = [⟨.rechargeExternalOnChain (some (js "order")), some true⟩])
    (by decide +kernel)
  exact ⟨c, hrun, of_decide_eq_true hend⟩

end Sample

/-- In every run, the password of a user is the one of the beginning, the one the user was created
with, or the valid new password of a change of that user's row; the change was for a session of
that name and gave the password that the row had when it was read. -/
theorem passwords_given (hstart : s₀.Fresh env)
    (hrun : (adminProgram env).system.run ⟨⟨s₀, []⟩, []⟩ ls = some c) :
    ∀ u ∈ c.store.store.users,
      (∃ v ∈ s₀.users ++ c.store.store.created, v.id = u.id ∧ v.password = u.password) ∨
        ∃ change ∈ c.store.store.changes, change.user.id = u.id ∧
          change.dto.newPassword = some u.password ∧ env.isVaildSHA256 u.password = true ∧
          change.dto.oldPassword = some change.user.password ∧
          change.user ∈ c.store.store.rowsRead ∧
          change.user.named env change.auth.loginName = true ∧
          ∃ g ∈ c.store.store.sessionsRead, g.info.loginName = change.auth.loginName := by
  obtain ⟨hsound, -⟩ := sound_of_run hstart hrun
  intro u hu
  refine (hsound.users u hu).password.imp_right ?_
  rintro ⟨change, hchange, hid, hnew⟩
  obtain ⟨hread, hold, hnamed, hsession, password, hpassword, hsha⟩ :=
    hsound.changes change hchange
  obtain rfl : u.password = password := Option.some.inj (hnew.symm.trans hpassword)
  exact ⟨change, hchange, hid, hnew, hsha, hold, hread, hnamed, hsession⟩

/-- The sample changes the password of the super administrator. -/
theorem passwords_given_sample :
    ∃ c, (adminProgram Sample.adminEnv).system.run ⟨⟨Sample.oneAdmin, []⟩, []⟩ Sample.adminRun =
        some c ∧ c.store.store.users.map (·.password) = [Sample.hash 0x63, Sample.hash 0x62] ∧
      ∀ u ∈ c.store.store.users,
        (∃ v ∈ Sample.oneAdmin.users ++ c.store.store.created, v.id = u.id ∧
            v.password = u.password) ∨
          ∃ change ∈ c.store.store.changes, change.user.id = u.id ∧
            change.dto.newPassword = some u.password ∧
            Sample.adminEnv.isVaildSHA256 u.password = true ∧
            change.dto.oldPassword = some change.user.password ∧
            change.user ∈ c.store.store.rowsRead ∧
            change.user.named Sample.adminEnv change.auth.loginName = true ∧
            ∃ g ∈ c.store.store.sessionsRead, g.info.loginName = change.auth.loginName := by
  obtain ⟨c, hrun, -, -, hpasswords, -⟩ := Sample.exists_adminRun
  exact ⟨c, hrun, hpasswords, passwords_given Sample.fresh_oneAdmin hrun⟩

/-- In every run, a retry is only called by a fix for which there is a record, made since the
beginning in the name of a session, that names exactly this fix; a record says that its fix has
succeeded only if the retry it names has returned; and a fix that has returned has left such a
record. -/
theorem fixes_recorded (hstart : s₀.Fresh env)
    (hrun : (adminProgram env).system.run ⟨⟨s₀, []⟩, []⟩ ls = some c) :
    (∀ x ∈ c.store.store.retries, ∃ type dto, OrderService.retryOf type dto = some x.call ∧
      ∃ r ∈ c.store.store.operateRecords, (∀ r₀ ∈ s₀.operateRecords, r₀.id ≠ r.id) ∧
        (∀ type' dto', r.Names type' dto' ↔ type' = type ∧ dto' = dto) ∧
        ∃ g ∈ c.store.store.sessionsRead, g.info.loginName = some r.loginName) ∧
      (∀ r ∈ c.store.store.operateRecords, r.result = true → r ∉ s₀.operateRecords →
        ∃ type dto call b, r.Names type dto ∧ OrderService.retryOf type dto = some call ∧
          ⟨call, some b⟩ ∈ c.store.store.retries) ∧
      ∀ x ∈ c.store.record, x.1.Done s₀ c.store.store := by
  obtain ⟨hsound, hdone⟩ := sound_of_run hstart hrun
  refine ⟨fun x hx => ?_, fun r hr hresult hnew => ?_, hdone⟩
  · obtain ⟨type, dto, hcall, r, hr, hnames, hfresh, hsession⟩ := hsound.retries x hx
    refine ⟨type, dto, hcall, r, hr, hfresh, fun type' dto' => ⟨fun h => h.unique hnames, ?_⟩,
      hsession⟩
    rintro ⟨rfl, rfl⟩
    exact hnames
  · exact (hsound.results r hr hresult).resolve_left hnew

/-- The fix of the sample has called a retry and left a record. -/
theorem fixes_recorded_sample :
    ∃ c, (adminProgram Sample.adminEnv).system.run ⟨⟨Sample.oneAdmin, []⟩, []⟩ Sample.adminRun =
        some c ∧ c.store.store.retries = [⟨.rechargeExternalOnChain (some (js "order")),
          some true⟩] ∧
      (∀ x ∈ c.store.store.retries, ∃ type dto, OrderService.retryOf type dto = some x.call ∧
        ∃ r ∈ c.store.store.operateRecords,
          (∀ r₀ ∈ Sample.oneAdmin.operateRecords, r₀.id ≠ r.id) ∧
          (∀ type' dto', r.Names type' dto' ↔ type' = type ∧ dto' = dto) ∧
          ∃ g ∈ c.store.store.sessionsRead, g.info.loginName = some r.loginName) ∧
        (∀ r ∈ c.store.store.operateRecords, r.result = true →
          r ∉ Sample.oneAdmin.operateRecords →
          ∃ type dto call b, r.Names type dto ∧ OrderService.retryOf type dto = some call ∧
            ⟨call, some b⟩ ∈ c.store.store.retries) ∧
        ∀ x ∈ c.store.record, x.1.Done Sample.oneAdmin c.store.store := by
  obtain ⟨c, hrun, -, -, -, hretries⟩ := Sample.exists_adminRun
  exact ⟨c, hrun, hretries, fixes_recorded Sample.fresh_oneAdmin hrun⟩

end CotServer
