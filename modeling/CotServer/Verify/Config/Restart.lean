import CotServer.Verify.Config.Calls
import CotServer.Verify.Config.Deposits
import CotServer.Verify.Redis.Backed

/-!
# Restarts keep the deposit addresses

`setConfig` stores the addresses of accounts that Redis gives back, so a restart, which reads the
same accounts from Redis, stores the same addresses again. The map of the process that has saved
the config counts only through Redis: nothing is injected, and every call is over before the next.
-/

namespace CotServer

open Async

variable (env : PlatformEnv)

/-- The deposit addresses of a config, with their places. -/
def BusinessConfig.deposits (config : BusinessConfig) :
    List (JsString × ExternalChainName × JsString × JsString) :=
  config.entries.map fun e => (e.chainName, e._chain, e.item.assetType, e.item.depositAddress)

/-- The deposit addresses are those of the stored accounts. -/
def PlatformStore.DepositsStored (s : PlatformStore) : Prop :=
  ∀ e ∈ s.config.entries, ∃ account,
    s.accounts.stored env.account e._chain e.item.assetType = some (.ok account) ∧
      e.item.depositAddress = env.depositAddress e._chain account

def PlatformRequest.injects : PlatformRequest → Bool
  | injectExternalAddress .. => true
  | _ => false

/-- The request is answered without an error. -/
def PlatformLabel.Succeeds (s : PlatformStore) (l : PlatformLabel) (t : PlatformStore) : Prop :=
  l.request.accepted = true ∧ (l.request.function env).exec (ConfigCall.answerOnPlatform env)
    l.choices (l.request.before s) = some (.ok (), t)

variable {env} {w : Worker} {s t : PlatformStore}

/-! ## Redis -/

/-- A call that injects nothing keeps what is in Redis. -/
theorem answer_redis (hencrypts : env.account.Encrypts) {c : ConfigCall} {r : Except Err c.Ans}
    (hc : c.op.injects = false) (h : env.answers True c s r t) :
    RedisGrows env.account s.accounts t.accounts := by
  obtain ⟨caller, op⟩ := c
  obtain ⟨choice, -, hans⟩ := h
  cases op with
  | initExternalAccount chainName assetType =>
    cases choice with
    | account choices =>
      obtain ⟨-, hruns⟩ := runs_onPlatform (E := True) (fun _ => trivial) hans
      exact post_initExternalAccount_redis hencrypts r t.accounts hruns
    | fails _ | done | text _ | errors _ => cases hans
  | injectExternalAddress chainName assetType keypairStr => cases hc
  | _ => cases choice <;> cases hans <;> exact .refl _

/-- A function that injects nothing keeps what is in Redis. -/
theorem redisGrows_of_asks (hencrypts : env.account.Encrypts) {p : ConfigAsync PlatformStore Unit}
    (hp : Asks (fun c => c.op.injects = false) p) {r : Except Err Unit}
    (hrun : p.Runs (env.answers True) s r t) :
    RedisGrows env.account s.accounts t.accounts :=
  Asks.keeps (R := fun s t => RedisGrows env.account s.accounts t.accounts) (fun _ => .refl _)
    (fun _ _ _ => .trans _ _ _) (fun _ _ _ _ => answer_redis hencrypts) hp s r t hrun

theorem setConfig_redis (hencrypts : env.account.Encrypts) {encryptConfig : JsString}
    {r : Except Err Unit}
    (hrun : (ConfigWriter.setConfig env.config w encryptConfig).Runs (env.answers True) s r t) :
    RedisGrows env.account s.accounts t.accounts :=
  redisGrows_of_asks hencrypts (setConfig_asks (fun _ _ h => h) (fun _ => rfl) encryptConfig) hrun

/-- Restarting empties the map of the order worker. -/
theorem before_redis (request : PlatformRequest) :
    RedisGrows env.account s.accounts (request.before s).accounts := by
  cases request with
  | restart =>
    refine ⟨fun _ _ => rfl, ?_⟩
    intro hs w chainName assetType account hmap
    by_cases hw : w = orderWorker
    · subst hw
      simp [PlatformRequest.before] at hmap
    · simp only [PlatformRequest.before, Function.update_of_ne hw] at hmap
      exact hs w chainName assetType account hmap
  | _ => exact .refl _

theorem step_redis (hdev : env.config.dev = false) (hencrypts : env.account.Encrypts)
    {l : PlatformLabel} (hl : l.request.injects = false)
    (hstep : (platform env).step s l = some t) :
    RedisGrows env.account s.accounts t.accounts := by
  obtain ⟨-, r, hruns⟩ := platform_step hstep
  replace hruns := hruns.mono fun _ _ _ _ => PlatformEnv.answers.weaken
  obtain ⟨request, choices⟩ := l
  refine .trans _ _ _ (before_redis request) ?_
  cases request with
  | setConfig w encryptConfig => exact setConfig_redis hencrypts hruns
  | setRecharge w rechargeConfig =>
    rw [(post_setRecharge rechargeConfig r t hruns).1]
    exact .refl _
  | injectExternalAddress chainName assetType keypairStr => cases hl
  | restart =>
    exact redisGrows_of_asks hencrypts
      (onModuleInit_asks (fun _ _ h => h) hdev rfl fun _ => rfl) hruns

/-! ## Restarts -/

/-- Entries with the same asset types and deposit addresses, place by place. -/
theorem deposits_eq {es es' : List SupportEntry}
    (h : SupportEntry.Rels (fun e item _ => item.assetType = e.item.assetType ∧
      item.depositAddress = e.item.depositAddress) s es es') :
    (es'.map fun e => (e.chainName, e._chain, e.item.assetType, e.item.depositAddress)) =
      es.map fun e => (e.chainName, e._chain, e.item.assetType, e.item.depositAddress) := by
  induction h with
  | nil => rfl
  | cons hhead _ ih =>
    obtain ⟨hchainName, hchain, htype, haddress⟩ := hhead
    simp only [List.map_cons, hchainName, hchain, htype, haddress, ih]

/-- The deposit addresses stay the stored ones, whatever is added to Redis. -/
theorem PlatformStore.DepositsStored.later (h : s.DepositsStored env)
    (hredis : RedisGrows env.account s.accounts t.accounts)
    (hentries : ∀ e' ∈ t.config.entries, ∃ e ∈ s.config.entries, e'._chain = e._chain ∧
      e'.item.assetType = e.item.assetType ∧ e'.item.depositAddress = e.item.depositAddress) :
    t.DepositsStored env := by
  intro e' he'
  obtain ⟨e, he, hchain, htype, haddress⟩ := hentries e' he'
  obtain ⟨account, hstored, hdeposit⟩ := h e he
  rw [hchain, htype, haddress]
  exact ⟨account, stored_of_redis hredis.redis hstored, hdeposit⟩

/-- A restart stores the deposit addresses that it finds. -/
theorem restart_deposits (hdev : env.config.dev = false) (hencrypts : env.account.Encrypts)
    {choices : List PlatformChoice} (hs : s.DepositsStored env)
    (hstep : (platform env).step s ⟨.restart, choices⟩ = some t) :
    t.DepositsStored env ∧ t.config.deposits = s.config.deposits := by
  have hredis := step_redis hdev hencrypts rfl hstep
  obtain ⟨-, r, hruns⟩ := platform_step hstep
  replace hruns := hruns.mono fun _ _ _ _ => PlatformEnv.answers.weaken
  obtain ⟨hgrow, ⟨-, hconfig⟩ | hstores⟩ := post_onModuleInit hdev (.inl trivial) r t hruns
  · have hsame : t.config = s.config := hconfig
    refine ⟨hs.later hredis ?_, by rw [hsame]⟩
    intro e he
    rw [hsame] at he
    exact ⟨e, he, rfl, rfl, rfl⟩
  · -- the map is empty, so the accounts are read from Redis
    have hsame : SupportEntry.Rels (fun e item _ => item.assetType = e.item.assetType ∧
        item.depositAddress = e.item.depositAddress) t s.config.entries t.config.entries := by
      refine SupportEntry.Rels.imp hstores ?_
      intro e he item hdeposits
      obtain ⟨htype, account, hresolves, haddress⟩ := hdeposits
      obtain ⟨account', hstored, haddress'⟩ := hs e he
      have hempty : (PlatformRequest.before .restart s).accounts.externalkeypairMap orderWorker
          e._chain e.item.assetType = none := by
        simp [PlatformRequest.before]
      have hempties : RedisGrows env.account s.accounts
          (PlatformRequest.before .restart s).accounts := before_redis .restart
      have hbefore := (resolve_of_empty hempty).trans (stored_of_redis hempties.redis hstored)
      have hafter := hgrow.resolve _ _ _ hbefore
      rw [htype] at hresolves
      have haccount : account = account' :=
        Except.ok.inj (Option.some.inj (hresolves.symm.trans hafter))
      rw [haddress, haddress', haccount]
      exact ⟨htype, rfl⟩
    refine ⟨hs.later hredis ?_, deposits_eq hsame⟩
    intro e' he'
    obtain ⟨e, he, -, hchain, htype, haddress⟩ := hsame.mem he'
    exact ⟨e, he, hchain, htype, haddress⟩

/-- What `setConfig` has saved are the addresses of stored accounts. -/
theorem setConfig_deposits (hencrypts : env.account.Encrypts) {encryptConfig : JsString}
    {choices : List PlatformChoice} (hs : s.accounts.Backed env.account)
    (h : PlatformLabel.Succeeds env s ⟨.setConfig w encryptConfig, choices⟩ t) :
    t.DepositsStored env := by
  have hruns : (ConfigWriter.setConfig env.config w encryptConfig).Runs (env.answers True) s
      (.ok ()) t := by
    refine (runs_of_exec h.2).mono ?_
    intro c s r t hans
    obtain ⟨choice, hans⟩ := hans
    exact ⟨choice, fun _ => trivial, hans⟩
  have hbacked := (setConfig_redis hencrypts hruns).backed hs
  obtain ⟨-, ⟨⟨e, he⟩, -⟩ | ⟨config, -, hstores⟩⟩ := post_setConfig_ends encryptConfig _ t hruns
  · cases he
  · intro e' he'
    obtain ⟨e, -, -, hchain, -, account, hresolves, haddress⟩ := hstores.mem he'
    rw [hchain]
    exact ⟨account, hbacked.stored hresolves, haddress⟩

/-- From processes with empty maps, after any requests but injections: what a `setConfig` has saved
keeps its deposit addresses through any number of restarts. -/
theorem restarts_keep_deposits (env : PlatformEnv) (hdev : env.config.dev = false)
    (hencrypts : env.account.Encrypts) (config : BusinessConfig)
    (redis : JsString → Option JsString) (generated : Nat) {history restarts : List PlatformLabel}
    {encryptConfig : JsString} {choices : List PlatformChoice} {s t u : PlatformStore}
    (hhistory : ∀ l ∈ history, l.request.injects = false)
    (hrun : (platform env).run ⟨config, { redis, generated }⟩ history = some s)
    (hsaved : PlatformLabel.Succeeds env s ⟨.setConfig w encryptConfig, choices⟩ t)
    (hrestarts : ∀ l ∈ restarts, l.request = .restart)
    (hrun' : (platform env).run t restarts = some u) : u.config.deposits = t.config.deposits := by
  have hbacked : s.accounts.Backed env.account := by
    refine System.run_invariant (I := fun s => s.accounts.Backed env.account) ?_ ?_
      (System.meets_of_forall hhistory _) hrun
    · intro s l t hs hl hstep
      exact (step_redis hdev hencrypts hl hstep).backed hs
    · intro w chainName assetType account hmap
      cases hmap
  have hend : u.DepositsStored env ∧ u.config.deposits = t.config.deposits := by
    refine System.run_invariant (I := fun u => u.DepositsStored env ∧
      u.config.deposits = t.config.deposits) ?_ ⟨setConfig_deposits hencrypts hbacked hsaved, rfl⟩
      (System.meets_of_forall hrestarts _) hrun'
    intro v l v' hv hl hstep
    obtain ⟨request, choices⟩ := l
    subst hl
    obtain ⟨hstored, hsame⟩ := restart_deposits hdev hencrypts hv.1 hstep
    exact ⟨hstored, hsame.trans hv.2⟩
  exact hend.2

namespace Sample

/-- A config in which `validate` finds no error comes in through worker 1, and then the order worker
is restarted twice. -/
def configLabel : PlatformLabel :=
  ⟨.setConfig 1 (js "config"), [.done, .errors [], .done, .done, accountChoices true, .done,
    accountChoices true, accountChoices true, .done, .done]⟩

def twoRestarts : List PlatformLabel :=
  List.replicate 2 ⟨.restart, [.done, accountChoices false, accountChoices false,
    accountChoices false, .done, .done]⟩

end Sample

theorem restarts_keep_deposits_sample :
    ∃ t u, PlatformLabel.Succeeds Sample.platformEnv ⟨⟨none⟩, {}⟩ Sample.configLabel t ∧
      (platform Sample.platformEnv).run t Sample.twoRestarts = some u ∧
      u.config.deposits.length = 3 ∧ u.config.deposits = t.config.deposits := by
  obtain ⟨t, u, hsaved, hrun, hlength⟩ : ∃ t u,
      PlatformLabel.Succeeds Sample.platformEnv ⟨⟨none⟩, {}⟩ Sample.configLabel t ∧
        (platform Sample.platformEnv).run t Sample.twoRestarts = some u ∧
        u.config.deposits.length = 3 := ⟨_, _, ⟨rfl, rfl⟩, rfl, rfl⟩
  refine ⟨t, u, hsaved, hrun, hlength, ?_⟩
  exact restarts_keep_deposits Sample.platformEnv rfl (fun _ _ h => by cases h) ⟨none⟩
    (fun _ => none) 0 (fun _ h => absurd h List.not_mem_nil) rfl hsaved
    (by simp [Sample.twoRestarts]) hrun

end CotServer
