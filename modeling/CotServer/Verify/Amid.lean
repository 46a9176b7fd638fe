import CotServer.Theory.Alongside
import CotServer.Verify.Service

/-!
# Requests while the config is written

A request reads the config twice, with other calls in between, and the config can be written in the
meantime. `ServiceEnv.amid` is the program of the writers; the functions of a request leave the
config to them.
-/

namespace CotServer

open Async Service Program

/-- Writers of the config; `configs` are the values that they write. -/
def ServiceEnv.amid (env : ServiceEnv) (configs : List RechargeObject) :
    Program ServiceStore ServiceOp.Ans Err Nat ServiceChoice Unit where
  event i s := configs[i]?.map fun config => ({ s with config }, none)
  kills _ _ := false
  answer := ServiceOp.answer env

abbrev ServicePool := @Pool ServiceStore ServiceOp ServiceOp.Ans Err Unit

abbrev ServiceExchange := @Exchange ServiceStore ServiceOp ServiceOp.Ans Err

variable {env : ServiceEnv} {configs stored : List RechargeObject} {c c' : ServicePool}
  {tr : List ServiceExchange} {α β : Type}

/-! ## The stored configs -/

/-- Functions of a service do not write the config. -/
def configMoves : Moves ServiceStore ServiceOp.Ans Err Unit where
  move _ s _ t := t.config = s.config
  wait _ _ _ _ := True
  receive x _ _ := x

/-- The function leaves the config to its writers. -/
def LeavesConfig (p : Service α) : Prop := ∀ s, configMoves.Follows p Moves.Anyhow () s

namespace LeavesConfig

theorem pure (a : α) : LeavesConfig (Pure.pure a) := fun _ => trivial

theorem throw (e : Err) : LeavesConfig (throw e : Service α) := fun _ => trivial

theorem settle (x : Except Err α) : LeavesConfig (Async.settle x) := by
  intro s
  exact Moves.follows_settle.2 trivial

theorem throwIf (b : Prop) [Decidable b] (e : Err) : LeavesConfig (Async.throwIf b e) := by
  intro s
  exact Moves.follows_throwIf.2 ⟨fun _ => trivial, fun _ => trivial⟩

theorem call (op : ServiceOp) : LeavesConfig (Async.call op) := by
  intro s
  exact Moves.follows_call.2 ⟨(), trivial, fun _ _ => trivial⟩

theorem bind {p : Service α} {f : α → Service β} (hp : LeavesConfig p)
    (hf : ∀ a, LeavesConfig (f a)) : LeavesConfig (p >>= f) := by
  intro s
  refine Moves.follows_bind.2 ((hp s).mono ?_)
  intro r y t _
  cases r with
  | error e => trivial
  | ok a => exact hf a t

theorem getUuid : LeavesConfig (getUuid env) := fun _ => ⟨(), rfl, trivial⟩

theorem random : LeavesConfig (random env) := fun _ => trivial

end LeavesConfig

theorem answer_config {op : ServiceOp} {o : ServiceChoice} {s t : ServiceStore}
    {r : Except Err op.Ans} (h : op.answer env o s = some (r, t)) : t.config = s.config := by
  cases op with
  | saveRedemptionOrder order =>
    obtain ⟨_, _, rfl⟩ | ⟨_, _, rfl⟩ := answer_saveRedemptionOrder h <;> rfl
  | _ => cases o <;> cases h <;> rfl

/-- The config in the store is one of the stored ones. -/
def StoredIs (stored : List RechargeObject) (s : ServiceStore)
    (_ : Multiset (Spot ServiceOp.Ans Err Unit)) : Prop := s.config ∈ stored

theorem storedIs_invariant (hstored : configs ⊆ stored) :
    configMoves.Invariant (env.amid configs) (fun _ _ _ => True) (fun _ => ()) (StoredIs stored) where
  drop h := h
  move _ h hmove := by
    rw [StoredIs, hmove]
    exact h
  wait _ h _ := h
  answer _ h _ hans := by
    rw [StoredIs, answer_config hans]
    exact h
  resume _ h _ := h
  event _ _ _ hevent _ := by
    obtain ⟨config, hconfig, heq⟩ := Option.map_eq_some_iff.1 hevent
    cases heq
    exact hstored (List.mem_of_getElem? hconfig)

theorem amid_starts : configMoves.Starts (env.amid configs) (fun _ => ()) := by
  intro e s t tag p h
  obtain ⟨config, _, heq⟩ := Option.map_eq_some_iff.1 h
  cases heq

/-- A call of a request is going on, with one of the stored configs in the store. -/
abbrev Amid (stored : List RechargeObject) (c : ServicePool) : Prop :=
  configMoves.HoldsWith (StoredIs stored) (.runs ()) c

theorem Amid.start (hconfig : c.store.config ∈ stored) (htasks : c.tasks = []) : Amid stored c := by
  refine ⟨[], ?_, hconfig⟩
  rw [htasks]
  exact .nil

theorem Amid.alongside (h : Amid stored c) (hstored : configs ⊆ stored) {p : Service α}
    (hp : LeavesConfig p) {r : Except Err α} (hcall : (env.amid configs).Alongside p c tr r c') :
    Amid stored c' := by
  obtain ⟨y, _, hc'⟩ := Moves.Follows.alongside (storedIs_invariant hstored) amid_starts
    (hp c.store) h hcall
  exact hc'

/-- The answer to a read of the config, and what is stored then. -/
theorem Amid.getConfigByKeyForce (h : Amid stored c) (hstored : configs ⊆ stored)
    {config : RechargeObject}
    (hcall : (env.amid configs).Alongside getConfigByKeyForce c tr (.ok config) c') :
    config ∈ stored ∧ (∃ s, tr = [⟨.getConfigByKeyForce, s, .ok config, s⟩] ∧ config = s.config) ∧
      Amid stored c' := by
  obtain ⟨before, after, rfl, hex⟩ := alongside_call.1 hcall
  obtain ⟨c₁, ls, hstore, ⟨S, _, hconfig⟩, _, _, hc'⟩ :=
    Moves.HoldsWith.exchange (storedIs_invariant hstored) amid_starts (x := ()) h hex
  obtain ⟨o, hans⟩ := hex.answered
  obtain ⟨rfl, rfl⟩ := answers_config.1 ⟨o, hans⟩
  rw [StoredIs, hstore] at hconfig
  exact ⟨hconfig, ⟨_, rfl, rfl⟩, hc'⟩

end CotServer
