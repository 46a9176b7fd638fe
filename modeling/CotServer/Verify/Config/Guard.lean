import CotServer.Model.Sample
import CotServer.Theory.Post

/-!
# The guard of `setRecharge`

`setRecharge` checks the property `recharge` of the config it is given, and saves the config itself.
A recharge config has no such property, unless a chain has that name, and the validator accepts
`undefined`. So the check says nothing about what is saved.
-/

namespace CotServer

open Async ConfigService

variable {env : VerifyEnv} {s s' : JsValue}

theorem read_ok {v x : JsValue} {key : JsString} : v.read key = .ok x ↔ v.get key = some x := by
  unfold JsValue.read
  split
  · next y h => simp [h, pure, Except.pure]
  · next h => simp [h, throw, throwThe, MonadExceptOf.throw]

/-! ## The loops -/

/-- A loop that returns has gone through all entries. -/
theorem mapEntries_body {f : JsString → JsValue → SetRechargeAsync JsValue}
    {entries entries' : List (JsString × JsValue)}
    (h : (mapEntries f entries).Runs SetRechargeOp.answers s (.ok entries') s')
    {key : JsString} {v : JsValue} (hmem : (key, v) ∈ entries) :
    ∃ t v' t', (f key v).Runs SetRechargeOp.answers t (.ok v') t' := by
  induction entries generalizing s s' entries' with
  | nil => cases hmem
  | cons entry entries ih =>
    obtain ⟨v', t, hbody, h⟩ := runs_bind_ok.1 h
    obtain ⟨rest, t', hrest, _⟩ := runs_bind_ok.1 h
    rcases List.mem_cons.1 hmem with rfl | hmem
    · exact ⟨s, v', t, hbody⟩
    · exact ih hrest hmem

theorem forIn_body {v v' : JsValue} {f : JsString → JsValue → SetRechargeAsync JsValue}
    (h : (v.forIn f).Runs SetRechargeOp.answers s (.ok v') s') {key : JsString} {x : JsValue}
    (hmem : (key, x) ∈ v.entries) :
    ∃ t x' t', (f key x).Runs SetRechargeOp.answers t (.ok x') t' := by
  obtain ⟨entries, t, hloop, _⟩ := runs_bind_ok.1 h
  exact mapEntries_body hloop hmem

theorem JsValue.forIn_canReturn {v : JsValue} {f : JsString → JsValue → SetRechargeAsync JsValue}
    (h : ∀ key x, (key, x) ∈ v.entries → CanReturn SetRechargeOp.answers (f key x)) :
    CanReturn SetRechargeOp.answers (v.forIn f) :=
  .bind (.mapEntries h) fun _ => .pure _

/-- The loops can read the config: no asset and no support entry is null. -/
def Readable (config : JsValue) : Prop :=
  ∀ chainName assets, (chainName, assets) ∈ config.entries →
    ∀ assetType item, (assetType, item) ∈ assets.entries →
      ∃ supportChain, item.get (js "supportChain") = some supportChain ∧
        ∀ _chain externalItem, (_chain, externalItem) ∈ supportChain.entries →
          externalItem.isNullish = false

theorem resolveExternalItem_canReturn {chainName _chain : JsString} {externalItem : JsValue}
    (h : externalItem.isNullish = false) :
    CanReturn SetRechargeOp.answers (resolveExternalItem chainName _chain externalItem) := by
  unfold resolveExternalItem
  cases hget : externalItem.get (js "contract") with
  | none =>
    rw [JsValue.get_eq_none.1 hget] at h
    cases h
  | some contract =>
    rw [read_ok.2 hget]
    refine .settle_bind ?_
    split
    · refine .bind (.call fun s => ?_) fun info => .pure _
      exact ⟨⟨[], 0⟩, s, .tokenInfo ⟨[], 0⟩, rfl⟩
    · exact .pure _

theorem resolve_canReturn {config : JsValue} (h : Readable config) :
    CanReturn SetRechargeOp.answers (resolve config) := by
  refine JsValue.forIn_canReturn fun chainName assets hassets => ?_
  refine JsValue.forIn_canReturn fun assetType item hitem => ?_
  obtain ⟨supportChain, hget, hentries⟩ := h chainName assets hassets assetType item hitem
  unfold resolveItem
  rw [read_ok.2 hget]
  refine .settle_bind (.bind (JsValue.forIn_canReturn fun _chain externalItem hmem => ?_) fun _ => .pure _)
  exact resolveExternalItem_canReturn (hentries _chain externalItem hmem)

theorem readable_of_resolve {config config' : JsValue}
    (h : (resolve config).Runs SetRechargeOp.answers s (.ok config') s') : Readable config := by
  intro chainName assets hassets assetType item hitem
  obtain ⟨_, _, _, hloop⟩ := forIn_body h hassets
  obtain ⟨_, _, _, hbody⟩ := forIn_body hloop hitem
  obtain ⟨supportChain, _, hread, hbody⟩ := runs_bind_ok.1 hbody
  refine ⟨supportChain, read_ok.1 (runs_settle.1 hread).1.symm, fun _chain externalItem hmem => ?_⟩
  obtain ⟨_, _, hloop, _⟩ := runs_bind_ok.1 hbody
  obtain ⟨_, _, _, hbody⟩ := forIn_body hloop hmem
  obtain ⟨contract, _, hread, _⟩ := runs_bind_ok.1 hbody
  have hget := read_ok.1 (runs_settle.1 hread).1.symm
  cases hnull : externalItem.isNullish with
  | false => rfl
  | true =>
    rw [JsValue.get_eq_none.2 hnull] at hget
    cases hget

/-! ## The whole function -/

/-- `setRecharge` saves the config in some run. -/
def Saves (env : VerifyEnv) (rechargeConfig : List (JsString × JsValue)) : Prop :=
  ∃ s s', (setRecharge env rechargeConfig).Runs SetRechargeOp.answers s (.ok ()) s'

theorem checkConfig_ok {rechargeConfig : List (JsString × JsValue)} :
    checkConfig env rechargeConfig = .ok () ↔
      RechargeClassVerify.validate env (JsValue.property rechargeConfig (js "recharge")) =
        .ok true := by
  dsimp only [checkConfig]
  generalize RechargeClassVerify.validate env (JsValue.property rechargeConfig (js "recharge")) = x
  obtain _ | _ | _ := x
  · exact ⟨fun h => (nomatch h), fun h => (nomatch h)⟩
  · exact ⟨fun h => (nomatch h), fun h => (nomatch h)⟩
  · exact ⟨fun _ => rfl, fun _ => rfl⟩

/-- The config is saved when its property `recharge` passes the check, and the loops can read it. -/
theorem saves_iff (rechargeConfig : List (JsString × JsValue)) :
    Saves env rechargeConfig ↔
      RechargeClassVerify.validate env (JsValue.property rechargeConfig (js "recharge")) =
          .ok true ∧
        Readable (.object rechargeConfig) := by
  rw [← checkConfig_ok]
  constructor
  · rintro ⟨s, s', hrun⟩
    obtain ⟨_, _, hbody⟩ | ⟨e, t, _, hthrow⟩ := runs_tryCatch.1 hrun
    · obtain ⟨_, _, hcheck, hbody⟩ := runs_bind_ok.1 hbody
      obtain ⟨config, _, hloops, _⟩ := runs_bind_ok.1 hbody
      exact ⟨(runs_settle.1 hcheck).1.symm, readable_of_resolve hloops⟩
    · cases hthrow.1
  · rintro ⟨hcheck, hreadable⟩
    obtain ⟨config, t, hloops⟩ := resolve_canReturn hreadable .undefined
    refine ⟨.undefined, config, runs_tryCatch.2 (.inl ⟨(), rfl, ?_⟩)⟩
    rw [hcheck]
    refine runs_bind_ok.2 ⟨(), _, runs_settle.2 ⟨rfl, rfl⟩, runs_bind_ok.2 ⟨config, t, hloops, ?_⟩⟩
    exact runs_call.2 ⟨.done, rfl⟩

/-- What is saved has passed the validator for exactly these configs. -/
theorem setRecharge_guarded_iff (env : VerifyEnv) (rechargeConfig : List (JsString × JsValue)) :
    (Saves env rechargeConfig →
        RechargeClassVerify.validate env (.object rechargeConfig) = .ok true) ↔
      RechargeClassVerify.validate env (.object rechargeConfig) = .ok true ∨
        RechargeClassVerify.validate env (JsValue.property rechargeConfig (js "recharge")) ≠
          .ok true ∨
        ¬ Readable (.object rechargeConfig) := by
  rw [saves_iff]
  tauto

/-- A chain that nobody knows is saved. -/
theorem setRecharge_not_guarded :
    ¬ ∀ (env : VerifyEnv) (rechargeConfig : List (JsString × JsValue)), Saves env rechargeConfig →
      RechargeClassVerify.validate env (.object rechargeConfig) = .ok true := by
  intro h
  have hvalid := h Sample.verifyEnv [(js "UNKNOWN", .object [])] (saves_iff _ |>.2 ⟨rfl, ?_⟩)
  · cases hvalid
  · intro chainName assets hassets assetType item hitem
    cases List.mem_singleton.1 hassets
    cases hitem

end CotServer
