import CotServer.Model.Recharge.Service
import CotServer.Model.Redemption.Service

/-!
# What the calls of the services do

`SameTables` relates stores that agree on everything but the uuids drawn. Most of a request only
reads and respects it; the calls that write have a lemma each. A token service that always says the
same about a contract determines the decimals of every token.
-/

namespace CotServer

open Async Service

variable {env : ServiceEnv} {s s' : ServiceStore}

/-- The database stores a row that fits its columns, or throws. -/
theorem answer_saveRedemptionOrder {order : RedemptionOrder} {choice : ServiceChoice}
    {r : Except Err Unit}
    (h : (ServiceOp.saveRedemptionOrder order).answer env choice s = some (r, s')) :
    (∃ e, r = .error e ∧ s' = s) ∨ order.FitsColumns ∧ r = .ok () ∧
      s' = { s with redemptionOrders := s.redemptionOrders ++ [order] } := by
  cases choice with
  | fails e =>
    cases h
    exact .inl ⟨e, rfl, rfl⟩
  | done =>
    simp only [ServiceOp.answer, Option.ite_none_right_eq_some, Option.some.injEq] at h
    obtain ⟨hfits, ⟨⟩⟩ := h
    exact .inr ⟨hfits, rfl, rfl⟩
  | tokenInfo | amount | text => cases h

/-- A call may throw anything, and then it has done nothing. -/
theorem answers_error {op : ServiceOp} {e : Err} :
    env.answers op s (.error e) s' ↔ s' = s := by
  constructor
  · rintro ⟨choice, h⟩
    cases op with
    | saveRedemptionOrder order =>
      obtain ⟨_, _, rfl⟩ | ⟨_, hok, _⟩ := answer_saveRedemptionOrder h
      · rfl
      · cases hok
    | _ =>
      cases choice <;> cases h
      rfl
  · rintro rfl
    exact ⟨.fails e, rfl⟩

theorem answers_devTest {b : Bool} :
    env.answers .isRechargeDevTest s (.ok b) s' ↔ b = env.rechargeDevTest ∧ s' = s := by
  constructor
  · rintro ⟨choice, h⟩
    cases choice <;> cases h
    exact ⟨rfl, rfl⟩
  · rintro ⟨rfl, rfl⟩
    exact ⟨.done, rfl⟩

theorem answers_config {config : RechargeObject} :
    env.answers .getConfigByKeyForce s (.ok config) s' ↔ config = s.config ∧ s' = s := by
  constructor
  · rintro ⟨choice, h⟩
    cases choice <;> cases h
    exact ⟨rfl, rfl⟩
  · rintro ⟨rfl, rfl⟩
    exact ⟨.done, rfl⟩

theorem answers_saveExternalTransfer {req : SaveExternalTransferReq} {txId : JsString} :
    env.answers (.saveExternalTransfer req) s (.ok txId) s' ↔
      s' = { s with externalTransfers := s.externalTransfers ++ [⟨txId, req⟩] } := by
  constructor
  · rintro ⟨choice, h⟩
    cases choice <;> cases h
    rfl
  · rintro rfl
    exact ⟨.text txId, rfl⟩

theorem answers_saveInternalTransaction {req : SaveInternalTransactionReq} {txId : JsString} :
    env.answers (.saveInternalTransaction req) s (.ok txId) s' ↔
      s' = { s with internalTransactions := s.internalTransactions ++ [⟨txId, req⟩] } := by
  constructor
  · rintro ⟨choice, h⟩
    cases choice <;> cases h
    rfl
  · rintro rfl
    exact ⟨.text txId, rfl⟩

theorem answers_saveRechargeOrder {order : RechargeOrder} :
    env.answers (.saveRechargeOrder order) s (.ok ()) s' ↔
      s' = { s with rechargeOrders := s.rechargeOrders ++ [order] } := by
  constructor
  · rintro ⟨choice, h⟩
    cases choice <;> cases h
    rfl
  · rintro rfl
    exact ⟨.done, rfl⟩

theorem answers_saveRedemptionOrder {order : RedemptionOrder} :
    env.answers (.saveRedemptionOrder order) s (.ok ()) s' ↔
      order.FitsColumns ∧
        s' = { s with redemptionOrders := s.redemptionOrders ++ [order] } := by
  constructor
  · rintro ⟨choice, h⟩
    obtain ⟨_, herror, _⟩ | ⟨hfits, _, rfl⟩ := answer_saveRedemptionOrder h
    · cases herror
    · exact ⟨hfits, rfl⟩
  · rintro ⟨hfits, rfl⟩
    exact ⟨.done, if_pos hfits⟩

theorem runs_getUuid {r : Except Err JsString} :
    (getUuid env).Runs env.answers s r s' ↔
      r = .ok (env.uuid s.uuids) ∧ s' = { s with uuids := s.uuids + 1 } := Iff.rfl

/-! ## One token service -/

/-- The decimals of a contract as the token service has them, or those of a main coin. -/
def tokenDecimals (tokenInfo : ExternalChainName → JsString → ContractTokenInfo)
    (chainName : ExternalChainName) (contractAddress : Option JsString) : Nat :=
  if truthy contractAddress then (tokenInfo chainName (orUndefined contractAddress)).decimals
  else if chainName = .TRON then 6 else 18

variable {tokenInfo : ExternalChainName → JsString → ContractTokenInfo}

theorem answersWith_answers {op : ServiceOp} {r : Except Err op.Ans}
    (h : env.answersWith tokenInfo op s r s') : env.answers op s r s' := by
  obtain ⟨choice, h⟩ := h
  unfold ServiceOp.answerWith at h
  split at h
  · cases h
    exact ⟨.tokenInfo _, rfl⟩
  · exact ⟨choice, h⟩

theorem runs_answers {α : Type} {p : Service α} {r : Except Err α}
    (h : p.Runs (env.answersWith tokenInfo) s r s') : p.Runs env.answers s r s' :=
  h.mono fun _ _ _ _ => answersWith_answers

theorem answersWith_tokenInfo {chainName : ExternalChainName} {contractAddress : JsString}
    {info : ContractTokenInfo}
    (h : env.answersWith tokenInfo (.getContractTokenInfo chainName contractAddress) s (.ok info)
      s') : info = tokenInfo chainName contractAddress := by
  obtain ⟨choice, h⟩ := h
  cases choice <;> cases h
  rfl

/-! ## Functions that only read -/

/-- The stores agree on everything but the uuids, and uuids are only drawn. -/
structure SameTables (s s' : ServiceStore) : Prop where
  config : s'.config = s.config
  rechargeOrders : s'.rechargeOrders = s.rechargeOrders
  redemptionOrders : s'.redemptionOrders = s.redemptionOrders
  externalTransfers : s'.externalTransfers = s.externalTransfers
  internalTransactions : s'.internalTransactions = s.internalTransactions
  uuids : s.uuids ≤ s'.uuids

namespace SameTables

theorem refl (s : ServiceStore) : SameTables s s := ⟨rfl, rfl, rfl, rfl, rfl, Nat.le_refl _⟩

theorem trans (s t u : ServiceStore) (h : SameTables s t) (h' : SameTables t u) :
    SameTables s u :=
  ⟨h'.config.trans h.config, h'.rechargeOrders.trans h.rechargeOrders,
    h'.redemptionOrders.trans h.redemptionOrders,
    h'.externalTransfers.trans h.externalTransfers,
    h'.internalTransactions.trans h.internalTransactions, Nat.le_trans h.uuids h'.uuids⟩

end SameTables

/-- The calls that change no table. -/
def ServiceOp.reads : ServiceOp → Bool
  | saveExternalTransfer _ | saveInternalTransaction _ | saveRechargeOrder _
  | saveRedemptionOrder _ => false
  | _ => true

/-- The function respects `SameTables`. -/
abbrev Reads {α : Type} (env : ServiceEnv) (p : Service α) : Prop := p.Keeps env.answers SameTables

namespace Reads

variable {α β : Type}

theorem call {op : ServiceOp} (hop : op.reads) : Reads env (Async.call op) := by
  refine Keeps.call fun s r s' h => ?_
  suffices h' : s' = s by
    rw [h']
    exact .refl s
  obtain ⟨choice, h⟩ := h
  cases op <;> cases hop <;> cases choice <;> cases h <;> rfl

theorem pure (a : α) : Reads env (Pure.pure a) := Keeps.pure SameTables.refl a

theorem throw (e : Err) : Reads env (throw e : Service α) := Keeps.throw SameTables.refl e

theorem settle (x : Except Err α) : Reads env (Async.settle x) := Keeps.settle SameTables.refl x

theorem throwIf (c : Prop) [Decidable c] (e : Err) : Reads env (Async.throwIf c e) :=
  Keeps.throwIf SameTables.refl c e

theorem bind {p : Service α} {f : α → Service β} (hp : Reads env p) (hf : ∀ a, Reads env (f a)) :
    Reads env (p >>= f) :=
  Keeps.bind SameTables.trans hp hf

theorem getUuid : Reads env (getUuid env) := by
  intro s r s' h
  obtain ⟨_, rfl⟩ := runs_getUuid.1 h
  exact ⟨rfl, rfl, rfl, rfl, rfl, Nat.le_succ _⟩

theorem random : Reads env (random env) := by
  rintro s r s' ⟨_, rfl⟩
  exact .refl s'

theorem externalBalance (chainName : ExternalChainName) (address : JsString)
    (contractAddress : Option JsString) :
    Reads env (externalBalance chainName address contractAddress) := by
  unfold Service.externalBalance
  split
  · exact call rfl
  · exact call rfl

end Reads

end CotServer
