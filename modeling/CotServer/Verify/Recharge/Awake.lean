import CotServer.Verify.Order.AwakeRuns
import CotServer.Verify.Recharge.Budget

/-!
# The functions of a recharge order leave it awake
-/

namespace CotServer

open Async OrderObj LegKind

def rechargeLeg : LegKind RechargeOrder RECHARGE_ORDER_STATE_ID where
  toRetryKind := rechargeRetry
  needs order := 0 < order.rechargeAmount && !order.rechargeTxOnChain
  wakes
    | .TO_TX_START | .TRY_TRANSFER (some _) => true
    | _ => false
  queues := true

namespace RechargeOrder

variable {env : OrderEnv} {since : Nat} {ref : Ref} {txId : JsString}
variable {answer : (op : OrderOp RechargeOrder RECHARGE_ORDER_STATE_ID) →
  OrderStore RechargeOrder → Except Err op.Ans → OrderStore RechargeOrder → Prop}
variable {s t : OrderStore RechargeOrder} {obj : RechargeOrderObj}

section

variable (hsure : Sure env answer)

include hsure

namespace InternalWaitOnChain

theorem post_enter (hnow : since ≤ s.now) (hlive : s.Live ref obj) :
    Post answer ((internalWaitOnChain env).enter ref) s fun _ t => rechargeLeg.Awake since t := by
  refine post_saveState hsure hlive.2 (post_update_bind (post_pure.2 ?_))
  refine .of_live hnow hlive fun _ => .queue rfl ?_
  simp

/-- What the `try` block of `__startTransfer` leaves when it returns. -/
def Sends (ref : Ref) (s : OrderStore RechargeOrder) (r : Except Err JsString)
    (t : OrderStore RechargeOrder) : Prop :=
  t.now = s.now ∧ ∀ txId, r = .ok txId →
    ∃ obj : RechargeOrderObj, t.Live ref obj ∧ obj.entity.rechargeTxId = txId

omit hsure in
theorem Sends.error {e : Err} (hnow : t.now = s.now) : Sends ref s (.error e) t :=
  ⟨hnow, fun _ h => by cases h⟩

end InternalWaitOnChain

namespace ExternalWaitOnChain

theorem rests_createExternalTransObj :
    (createExternalTransObj ref).Keeps answer (rechargeLeg.Rests ref) := by
  apply rests_bind rests_getObj
  intro obj
  exact rests_bind (rests_call hsure _) fun _ => rests_modifyObj fun _ h => h

/-- The object goes on to the other chain. -/
theorem post_confirmed (hnow : since ≤ s.now) (hlive : s.Live ref obj) :
    Post answer (changeState (internalWaitOnChain env) ref .INTERNAL_WAIT_ON_CHAIN) s
      fun _ t => rechargeLeg.Awake since t :=
  awake_changeState hnow hlive fun _ _ hnow hlive =>
    InternalWaitOnChain.post_enter hsure hnow hlive

theorem post_onEnterState (hnow : since ≤ s.now) (hlive : s.Live ref obj)
    (hstate : obj.curStateId = .EXTERNAL_WAIT_ON_CHAIN) :
    Post answer (onEnterState env ref) s fun _ t => rechargeLeg.Awake since t := by
  refine post_isDevTest hsure ?_
  split
  · exact post_confirmed hsure hnow hlive
  · have hidle : rechargeLeg.Idle ref s := idle_of_state hlive (by rw [hstate]; decide)
    exact (post_of_rests (rests_createExternalTransObj hsure) hnow hidle).mono
      fun _ _ h => h.1.awake h.2

theorem post_enter (hnow : since ≤ s.now) (hlive : s.Live ref obj)
    (hstate : obj.curStateId = .EXTERNAL_WAIT_ON_CHAIN) :
    Post answer ((externalWaitOnChain env).enter ref) s fun _ t => rechargeLeg.Awake since t := by
  refine post_saveState hsure hlive.2 (post_bind.2 ?_)
  refine Post.mono (post_onEnterState hsure hnow hlive hstate) fun r t hawake => ?_
  cases r with
  | error e => exact hawake
  | ok a => exact post_pure.2 hawake

end ExternalWaitOnChain

end

end RechargeOrder

end CotServer
