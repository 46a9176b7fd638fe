import CotServer.Verify.Order.AwakeRuns
import CotServer.Verify.Redemption.Budget

/-!
# The functions of a redemption order leave it awake
-/

namespace CotServer

open Async OrderObj LegKind

def redemptionLeg : LegKind RedemptionOrder REDEMPTION_ORDER_STATE_ID where
  toRetryKind := redemptionRetry
  needs _ := true
  wakes
    | .TO_TX_START => true
    | _ => false
  queues := false

namespace RedemptionOrder

variable {env : OrderEnv} {since : Nat} {ref : Ref} {txId : JsString}
variable {answer : (op : OrderOp RedemptionOrder REDEMPTION_ORDER_STATE_ID) →
  OrderStore RedemptionOrder → Except Err op.Ans → OrderStore RedemptionOrder → Prop}
variable {s t : OrderStore RedemptionOrder} {obj : RedemptionOrderObj}

/-! ## Final states -/

section

variable (hsure : Sure env answer)

include hsure

/-- The order has been paid. -/
theorem post_paid (hnow : since ≤ s.now) (hlive : s.Live ref obj) :
    Post answer (changeState success ref .SUCCESS) s
      fun _ t => redemptionLeg.Idle ref t ∧ since ≤ t.now :=
  post_changeState hlive hnow (by decide) (rests_final hsure (rests_call hsure _))

/-! ## `ExternalWaitOnChain_RedemptionOrderState` -/

namespace ExternalWaitOnChain

theorem post_onEnterState (hnow : since ≤ s.now) (hlive : s.Live ref obj) :
    Post answer (onEnterState ref) s fun _ t => redemptionLeg.Awake since t := by
  refine post_isDevTest hsure ?_
  split
  · exact (post_paid hsure hnow hlive).mono fun _ _ h => h.1.awake h.2
  · exact post_wake hsure hnow rfl

theorem post_enter (hnow : since ≤ s.now) (hlive : s.Live ref obj) :
    Post answer ((externalWaitOnChain env).enter ref) s fun _ t => redemptionLeg.Awake since t := by
  refine post_saveState hsure hlive.2 (post_bind.2 ?_)
  refine Post.mono (post_onEnterState hsure hnow hlive) fun r t hawake => ?_
  cases r with
  | error e => exact hawake
  | ok a => exact post_pure.2 hawake

end ExternalWaitOnChain

namespace InternalWaitOnChain

end InternalWaitOnChain

end

end RedemptionOrder

end CotServer
