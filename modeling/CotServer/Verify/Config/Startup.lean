import CotServer.Model.Sample
import CotServer.Verify.Config.Calls
import Mathlib.Data.List.Permutation

/-!
# Updates during startup

The config that is stored at the end is one that the requests give one after another, if every
startup that stores the config finds it as it has read it. Nothing in the code sees to that.
-/

namespace CotServer

open Async Clients

variable {env : ConfigEnv} {services : CallServices} {caller : Caller}

/-- The calls of `caller` that are not about the stored config. -/
def OwnCall (caller : Caller) (c : ConfigCall) : Prop := c.caller = caller ∧ c.op.access = .own

theorem allowsOwn : AllowsOwn (OwnCall caller) caller := fun _ h _ => ⟨rfl, h⟩

theorem asks_own {op : ConfigOp} (h : op.access = .own) :
    Asks (OwnCall caller) (ConfigWriter.call caller op : ConfigAsync ConfigStore _) :=
  asks_call ⟨rfl, h⟩

/-! ## The functions are transactions -/

theorem setConfig_transaction (encryptConfig : JsString) :
    (configClients env services).Transaction caller false
      (ConfigWriter.setConfig env caller encryptConfig) := by
  refine .bind (asks_own rfl) fun text => ?_
  refine .bind Asks.settle fun config => ?_
  refine .bind (asks_own rfl) fun errors => ?_
  refine .bind Asks.throwIf fun _ => ?_
  exact .bind (setConfig_recharge_asks allowsOwn config.recharge) fun recharge => .write rfl rfl

theorem setRecharge_transaction (rechargeConfig : RechargeObject) :
    (configClients env services).Transaction caller false
      (ConfigWriter.setRecharge env caller rechargeConfig) := by
  refine .tryCatch ?_ fun _ => trivial
  refine .bind Asks.settle fun _ => ?_
  exact .bind (asks_forIn (setRecharge_item_asks allowsOwn) rechargeConfig) fun _ => .write rfl rfl

theorem testInjectAddress_asks : Asks (OwnCall caller)
    (ConfigWriter.onModuleInit.testInjectAddress caller : ConfigAsync ConfigStore _) := by
  have hinject : ∀ chainName secret, Asks (OwnCall caller)
      (ConfigWriter.onModuleInit.testInjectExternalAddress caller chainName secret :
        ConfigAsync ConfigStore _) := by
    intro chainName secret
    refine (asks_own rfl).bind fun _ => ?_
    exact (asks_own rfl).bind fun _ => Asks.pure
  refine (asks_own rfl).bind fun _ => ?_
  refine (asks_own rfl).bind fun _ => ?_
  refine (asks_own rfl).bind fun _ => ?_
  refine (asks_own rfl).bind fun _ => ?_
  refine (asks_own rfl).bind fun _ => ?_
  refine (hinject _ _).bind fun _ => ?_
  exact (hinject _ _).bind fun _ => hinject _ _

theorem onModuleInit_transaction :
    (configClients env services).Transaction caller false (ConfigWriter.onModuleInit env caller) := by
  unfold ConfigWriter.onModuleInit
  split
  · exact .of_asks testInjectAddress_asks
  · refine .read rfl rfl fun config => ?_
    split
    · exact trivial
    · next recharge hrecharge =>
      refine .bind (asks_forIn (onModuleInit_item_asks allowsOwn) recharge) fun recharge => ?_
      exact .tryCatch (.write rfl rfl) fun _ => trivial

theorem configClients_lawful (env : ConfigEnv) (services : CallServices) :
    (configClients env services).Lawful where
  function caller request := by
    cases request with
    | onModuleInit => exact onModuleInit_transaction
    | setConfig encryptConfig => exact setConfig_transaction encryptConfig
    | setRecharge rechargeConfig => exact setRecharge_transaction rechargeConfig
  own n c v w hown := by
    obtain ⟨caller, op⟩ := c
    simp only [configClients, ConfigCall.answerAt]
    split
    · cases op <;> first | rfl | cases hown
    · rfl
  read n c v hread := by
    obtain ⟨caller, op⟩ := c
    simp only [configClients, ConfigCall.answerAt]
    split
    · cases op <;> first | rfl | cases hread
    · rfl

/-! ## Runs -/

/-- A write of the config, by a function that has read it, finds it as it was read, or throws. Only
startup reads the config before it writes. -/
def writesWhatWasRead (services : CallServices) (s : ConfigStore) :
    Action ConfigCall.Ans Err ConfigRequest Unit → Bool
  | .answer ⟨caller, op⟩ _ => op.access ≠ .write ||
    match services caller (s.calls caller) with
    | .ok _ => (s.seen caller).all fun config => s.value = config
    | .error _ => true
  | _ => true

theorem valid_of_writesWhatWasRead {s : ConfigStore}
    {a : Action ConfigCall.Ans Err ConfigRequest Unit}
    (h : writesWhatWasRead services s a = true) : (configClients env services).Valid s a := by
  cases a with
  | event request => exact trivial
  | resume op r => exact trivial
  | answer c o =>
    intro hwrite config hconfig
    have hwrite : c.op.access = .write := hwrite
    simp only [writesWhatWasRead, hwrite, ne_eq, not_true_eq_false, decide_false,
      Bool.false_or] at h
    split at h
    · next hok =>
      have hread := (Option.all_eq_true _ _).1 h config hconfig
      exact .inl (of_decide_eq_true hread)
    · next e he =>
      refine .inr fun config' => ?_
      simp [configClients, ConfigCall.answerAt, he]

/-- The config after a startup and updates is one that they give one after another. -/
theorem startup_serializable (env : ConfigEnv) (services : CallServices) {config : BusinessConfig}
    {ls : List (Label ConfigRequest Unit)}
    {c : Pool ConfigStore ConfigCall.Ans Err (ConfigRequest × Caller)}
    (hrun : (configClients env services).program.system.run ⟨{ value := config }, []⟩ ls = some c)
    (hall : (configClients env services).program.system.Meets
      (Program.Allows fun s a => writesWhatWasRead services s a = true) ⟨{ value := config }, []⟩ ls)
    (hend : c.tasks = []) :
    ∃ order, order.Perm c.store.started.zipIdx ∧
      c.store.value = (configClients env services).serial order config := by
  have hvalid : (configClients env services).program.system.Meets
      (Program.Allows (configClients env services).Valid) ⟨{ value := config }, []⟩ ls :=
    hall.mono fun _ _ h a ha => valid_of_writesWhatWasRead (h a ha)
  exact serializable (configClients_lawful env services) hvalid hrun hend

namespace Sample

/-- An update that takes the asset out of service. -/
def disabled : RechargeObject := [(js "BIWMETA", [(js "USDT", { item with enable := false })])]

def configProgram : Program ConfigStore ConfigCall.Ans Err ConfigRequest Unit (ConfigRequest × Caller) :=
  (configClients configEnv fun _ _ => .ok Sample.services).program

/-- A startup, and after it an update. -/
def startupThenUpdate : List (Label ConfigRequest Unit) :=
  [.event .onModuleInit] ++ Program.awaits 0 () 6 ++ [.event (.setRecharge disabled)] ++
    Program.awaits 0 () 3

/-- The update comes when the startup has read the config. -/
def updateDuringStartup : List (Label ConfigRequest Unit) :=
  [.event .onModuleInit] ++ Program.awaits 0 () 1 ++ [.event (.setRecharge disabled)] ++
    Program.awaits 1 () 3 ++ Program.awaits 0 () 5

end Sample

theorem startup_serializable_sample :
    ∃ c, Sample.configProgram.system.run ⟨{ value := ⟨some Sample.config⟩ }, []⟩
        Sample.startupThenUpdate = some c ∧
      c.tasks = [] ∧ c.store.started = [.onModuleInit, .setRecharge Sample.disabled] ∧
      c.store.value = ⟨some Sample.disabled⟩ ∧
      ∃ order, order.Perm c.store.started.zipIdx ∧ c.store.value =
        (configClients Sample.configEnv fun _ _ => .ok Sample.services).serial order
          ⟨some Sample.config⟩ := by
  obtain ⟨c, hrun, hend⟩ := Sample.configProgram.system.exists_run
    ⟨{ value := ⟨some Sample.config⟩ }, []⟩ Sample.startupThenUpdate
    (fun c => c.tasks.isEmpty &&
      c.store.started = [.onModuleInit, .setRecharge Sample.disabled] &&
      c.store.value = ⟨some Sample.disabled⟩) (by decide +kernel)
  simp only [Bool.and_eq_true, List.isEmpty_iff, decide_eq_true_eq] at hend
  obtain ⟨⟨htasks, hstarted⟩, hvalue⟩ := hend
  have hall : Sample.configProgram.system.checks (fun c l => (Program.action c l).all
      (writesWhatWasRead (fun _ _ => .ok Sample.services) c.store))
      ⟨{ value := ⟨some Sample.config⟩ }, []⟩ Sample.startupThenUpdate = true := by
    decide +kernel
  exact ⟨c, hrun, htasks, hstarted, hvalue, startup_serializable Sample.configEnv _ hrun
    (Program.meets_of_checks _ hall) htasks⟩

/-- The startup puts the config back that it has read. -/
theorem startup_loses_update :
    ¬ ∀ (env : ConfigEnv) (services : CallServices) (config : BusinessConfig)
      (ls : List (Label ConfigRequest Unit))
      (c : Pool ConfigStore ConfigCall.Ans Err (ConfigRequest × Caller)),
      (configClients env services).program.system.run ⟨{ value := config }, []⟩ ls = some c →
      c.tasks = [] →
      ∃ order, order.Perm c.store.started.zipIdx ∧
        c.store.value = (configClients env services).serial order config := by
  intro h
  let serial := (configClients Sample.configEnv fun _ _ => .ok Sample.services).serial
  let startup : ConfigRequest × Caller := (.onModuleInit, 0)
  let update : ConfigRequest × Caller := (.setRecharge Sample.disabled, 1)
  obtain ⟨c, hrun, hend⟩ := Sample.configProgram.system.exists_run
    ⟨{ value := ⟨some Sample.config⟩ }, []⟩ Sample.updateDuringStartup
    (fun c => c.tasks.isEmpty && c.store.started.zipIdx = [startup, update] &&
      c.store.value ≠ serial [startup, update] ⟨some Sample.config⟩ &&
      c.store.value ≠ serial [update, startup] ⟨some Sample.config⟩) (by decide +kernel)
  simp only [Bool.and_eq_true, List.isEmpty_iff, decide_eq_true_eq] at hend
  obtain ⟨⟨⟨htasks, hstarted⟩, hfirst⟩, hsecond⟩ := hend
  obtain ⟨order, hperm, hvalue⟩ := h _ _ _ _ c hrun htasks
  rw [hstarted] at hperm
  rcases List.perm_pair.1 hperm with rfl | rfl
  · exact hfirst hvalue
  · exact hsecond hvalue

end CotServer
