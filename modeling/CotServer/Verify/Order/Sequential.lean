import CotServer.Theory.Atomic
import CotServer.Theory.Post
import CotServer.Verify.Order.Handlers

/-!
# The order worker without interleaving

The functions of the order worker one after another, when the calls that `sure` names do not throw.
-/

namespace CotServer

open Async

variable {E S : Type} [OrderEntity E S] [DecidableEq S]

/-- The answers to a call; one of the `sure` calls does not throw. -/
def OrderOp.answerSure (sure : OrderOp E S → Bool) (env : OrderEnv) (op : OrderOp E S)
    (choice : OrderChoice) (s : OrderStore E) : Option (Except Err op.Ans × OrderStore E) :=
  match sure op, choice with
  | true, .fails _ => none
  | _, choice => op.answer env choice s

/-- The system of one order, when the `sure` calls do not throw. -/
def OrderMgr.sureProgram (mgr : OrderMgr E S) (env : OrderEnv) (sure : OrderOp E S → Bool) :
    @Program (OrderStore E) (OrderOp E S) OrderOp.Ans Err OrderEvt OrderChoice OrderProcess :=
  { mgr.program env with answer := OrderOp.answerSure sure env }

/-- A function that runs to its end on its own is a run of the interleaved program. -/
theorem sureProgram_handle_run {mgr : OrderMgr E S} {env : OrderEnv} {sure : OrderOp E S → Bool}
    {s s' : OrderStore E} {e : OrderEvt} {os : List OrderChoice} {r : Except Err Unit}
    (h : (mgr.sureProgram env sure).handle s e os = some (r, s')) :
    ∃ ls, (mgr.program env).system.run ⟨s, []⟩ (.event e :: ls) = some ⟨s', []⟩ := by
  obtain ⟨ls, hrun⟩ := Program.handle_run h
  refine ⟨ls, Program.run_of_answer ?_ hrun⟩
  intro op o s r hanswer
  unfold OrderOp.answerSure at hanswer
  split at hanswer
  · cases hanswer
  · exact hanswer

/-- The calls that write the row of the order. -/
def OrderOp.saves : OrderOp E S → Bool
  | save _ | saveState _ => true
  | _ => false

variable {mgr : OrderMgr E S} {env : OrderEnv} {sure : OrderOp E S → Bool} {s s' : OrderStore E}
  {ref : Ref} {obj : OrderObj E}

theorem sureProgram_answer {op : OrderOp E S} {r : Except Err op.Ans}
    (h : (mgr.sureProgram env sure).answers op s r s') :
    ∃ o, op.answer env o s = some (r, s') ∧ (sure op = true → ∀ e, o ≠ .fails e) := by
  obtain ⟨o, h⟩ := h
  change OrderOp.answerSure sure env op o s = _ at h
  refine ⟨o, ?_⟩
  unfold OrderOp.answerSure at h
  cases hsure : sure op with
  | false =>
    rw [hsure] at h
    exact ⟨h, fun hsure => (Bool.false_ne_true hsure).elim⟩
  | true =>
    rw [hsure] at h
    cases o with
    | fails e => cases h
    | _ =>
      refine ⟨h, ?_⟩
      intro _ e he
      cases he

theorem sureProgram_memory {op : OrderOp E S} {r : Except Err op.Ans}
    (h : (mgr.sureProgram env sure).answers op s r s') : s.SameMemory s' := by
  obtain ⟨o, h, _⟩ := sureProgram_answer h
  exact OrderOp.answer_memory h

theorem sureProgram_messages {op : OrderOp E S} {r : Except Err op.Ans}
    (h : (mgr.sureProgram env sure).answers op s r s') : s.messages ⊆ s'.messages := by
  obtain ⟨o, h, _⟩ := sureProgram_answer h
  exact OrderOp.answer_messages h

theorem sureProgram_save {e : E} {r : Except Err Unit} (hsure : sure (.save e) = true)
    (h : (mgr.sureProgram env sure).answers (.save e) s r s') :
    r = .ok () ∧ s' = { s with row := e } := by
  obtain ⟨o, h, hok⟩ := sureProgram_answer h
  cases o with
  | fails e => exact absurd rfl (hok hsure e)
  | done =>
    cases h
    exact ⟨rfl, rfl⟩
  | _ => cases h

theorem sureProgram_saveState {st : S} {r : Except Err Unit}
    (hsure : sure (.saveState st) = true)
    (h : (mgr.sureProgram env sure).answers (.saveState st) s r s') :
    r = .ok () ∧ s' = { s with row := OrderEntity.setState st s.row } := by
  obtain ⟨o, h, hok⟩ := sureProgram_answer h
  cases o with
  | fails e => exact absurd rfl (hok hsure e)
  | done =>
    cases h
    exact ⟨rfl, rfl⟩
  | _ => cases h

theorem sureProgram_publish {message : OrderMessage} {r : Except Err Unit}
    (hsure : sure (.publishOrderEvent message) = true)
    (h : (mgr.sureProgram env sure).answers (.publishOrderEvent message) s r s') :
    r = .ok () ∧ s' = { s with messages := s.messages ++ [message] } := by
  obtain ⟨o, h, hok⟩ := sureProgram_answer h
  cases o with
  | fails e => exact absurd rfl (hok hsure e)
  | done =>
    cases h
    exact ⟨rfl, rfl⟩
  | _ => cases h

theorem sureProgram_isDevTest {r : Except Err Bool} (hsure : sure .isDevTest = true)
    (h : (mgr.sureProgram env sure).answers .isDevTest s r s') :
    r = .ok env.devTest ∧ s' = s := by
  obtain ⟨o, h, hok⟩ := sureProgram_answer h
  cases o with
  | fails e => exact absurd rfl (hok hsure e)
  | done =>
    cases h
    exact ⟨rfl, rfl⟩
  | _ => cases h

end CotServer
