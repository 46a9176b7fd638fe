import CotServer.Verify.Order.Follows
import CotServer.Verify.Redemption.Order

/-!
# The functions of a redemption order follow its moves
-/

namespace CotServer

open Async Moves OrderKind

def redemptionKind : OrderKind RedemptionOrder REDEMPTION_ORDER_STATE_ID where
  toTransfers := redemptionTransfers
  incomingWait := .INTERNAL_WAIT_ON_CHAIN
  incomingFail := .INTERNAL_ON_CHAIN_FAIL
  outgoingWait := .EXTERNAL_WAIT_ON_CHAIN
  outgoingFail := .EXTERNAL_ON_CHAIN_FAIL
  nodup := by decide
  retryMaxNum env := env.EXTERNAL_TRANS_RETRY_MAX_NUM
  opens message := message = .TO_TX_START
  guarded := false

namespace RedemptionOrder

variable {env : OrderEnv} {x : OrderPos RedemptionOrder} {s : OrderStore RedemptionOrder}
  {ref : Ref} {obj : RedemptionOrderObj} {txId : JsString}

/-! ## Final states -/

theorem kind_externalOnChainFail :
    redemptionKind.StateSafe env .EXTERNAL_ON_CHAIN_FAIL externalOnChainFail :=
  stateSafe_final (.inr (.inl rfl)) fun _ _ _ _ _ => follows_pure.2 rfl

theorem kind_internalOnChainFail :
    redemptionKind.StateSafe env .INTERNAL_ON_CHAIN_FAIL internalOnChainFail :=
  stateSafe_final (.inl rfl) fun _ _ _ _ _ => follows_pure.2 rfl

theorem kind_success : redemptionKind.StateSafe env .SUCCESS success := stateSafe_announces

/-! ## `ExternalWaitOnChain_RedemptionOrderState` -/

namespace ExternalWaitOnChain

theorem kind_onTick : redemptionKind.Safe env (onTick ref) x s := by
  refine safe_getObj fun obj _ => .store ?_
  split
  · refine Safe.bind (safe_touch fun _ => ?_) fun _ _ _ => safe_publish
    exact ⟨rfl, rfl, rfl, rfl, rfl⟩
  · exact .pure

theorem kind_onEnterState (href : x.entered = some ref) :
    redemptionKind.Safe env (onEnterState ref) x s := by
  refine Safe.seq follows_isDevTest (fun _ _ _ h => h.1) fun devTest y t hy => ⟨hy.1, ?_⟩
  split
  · next hdev =>
    obtain ⟨htested, hentered⟩ := hy.2 (congrArg _ hdev)
    have hfinal : redemptionKind.Final REDEMPTION_ORDER_STATE_ID.SUCCESS := .inr (.inr rfl)
    exact safe_changeState (.pass htested (hentered.trans href) (.inr rfl) (.inl ⟨hfinal, rfl⟩))
      kind_success fun _ => rfl
  · exact safe_publish

/-- The end of a create: the transaction is in the object. -/
def Recorded (ref : Ref) (x : OrderPos RedemptionOrder) (r : Except Err Unit)
    (y : OrderPos RedemptionOrder) (_ : OrderStore RedemptionOrder) : Prop :=
  y.made = x.made ∧ (r = .ok () → ∃ txId, y.act = .recorded ref txId)

theorem follows_createTransfer {order : RedemptionOrder}
    (hopens : redemptionKind.Opens env x s ref obj) :
    (orderMoves redemptionKind env).Follows (createTransfer ref order) (Recorded ref x) x s := by
  refine follows_bind.2 (follows_bind.2 (follows_store.2 ?_))
  dsimp only
  split
  · refine follows_bind.2 (follows_call.2 ⟨_, .create rfl hopens, fun r t => ?_⟩)
    cases r with
    | error e => exact ⟨rfl, fun h => (nomatch h)⟩
    | ok txId =>
      have hsets : redemptionKind.SetsOutTx txId (RedemptionOrderObj.setWalletTxId txId) :=
        fun _ => ⟨rfl, rfl⟩
      refine follows_bind.2 (follows_update.2 ⟨_, .record rfl hsets, ?_⟩)
      refine (follows_save fun obj hobj => .inr (.inr ?_)).mono fun _ y _ hy => ?_
      · rw [outTx_modify hsets hobj]
      · exact ⟨hy ▸ rfl, fun _ => ⟨txId, hy ▸ rfl⟩⟩
  · exact ⟨rfl, fun h => (nomatch h)⟩

theorem kind_waitForRetry {order : RedemptionOrder} {e : Err} :
    (orderMoves redemptionKind env).Follows (waitForRetry env order e)
      (fun r y _ => y.made = x.made ∧ r ≠ .ok ()) x s := by
  have hthrow : ∀ (y : OrderPos RedemptionOrder) (t : OrderStore RedemptionOrder),
      y.made = x.made → (orderMoves redemptionKind env).Follows
        (throw e : RedemptionAsync Unit) (fun r y _ => y.made = x.made ∧ r ≠ .ok ()) y t :=
    fun y t hy => ⟨hy, fun h => (nomatch h)⟩
  have hmade : x.aside.made = x.made := OrderPos.aside_made
  unfold waitForRetry
  split
  · refine follows_bind.2 (follows_call.2 ⟨x.aside, OrderWait.silent rfl, fun r t => ?_⟩)
    cases r with
    | error e => exact ⟨hmade, fun h => (nomatch h)⟩
    | ok forgeInterval =>
      refine follows_bind.2 (follows_call.2 ⟨x.aside.aside, OrderWait.silent rfl, fun r t => ?_⟩)
      have hmade : x.aside.aside.made = x.made := OrderPos.aside_made.trans hmade
      cases r with
      | error e => exact ⟨hmade, fun h => (nomatch h)⟩
      | ok _ => exact hthrow _ _ hmade
  · refine follows_bind.2 (follows_call.2 ⟨x.aside, .silent rfl, fun r t => ?_⟩)
    cases r with
    | error e => exact ⟨hmade, fun h => (nomatch h)⟩
    | ok _ => exact hthrow _ _ hmade

/-- A start, once it is on record. -/
theorem kind_createExternalTransObj {chainName : ExternalChainName}
    (hmove : OrderMove redemptionKind env x s { x with act := .starting }
      { s with started := txId :: s.started }) :
    redemptionKind.Safe env (createExternalTransObj chainName txId) x s := by
  refine follows_bind.2 (follows_update.2 ⟨_, hmove, follows_call.2 ⟨_, .start rfl rfl, ?_⟩⟩)
  exact fun _ _ => OrderPos.receive_made

theorem kind_startTransfer (hlive : s.Live ref obj)
    (hstate : obj.curStateId = REDEMPTION_ORDER_STATE_ID.EXTERNAL_WAIT_ON_CHAIN)
    (hx : x.act = .delivered .TO_TX_START) :
    redemptionKind.Safe env (startTransfer env ref) x s := by
  have hopens : redemptionKind.Opens env x s ref obj :=
    ⟨⟨_, hx, rfl⟩, hlive, hstate, fun hguarded => by cases hguarded⟩
  refine safe_getObj fun obj' hobj => ?_
  obtain rfl : obj = obj' := Option.some.inj (hlive.2.symm.trans hobj)
  dsimp only
  split
  · refine Safe.seq (Q := Recorded ref x) ?_ (fun _ _ _ h => h.1) fun _ y t hy => ⟨hy.1, ?_⟩
    · refine follows_tryCatch.2 ((follows_createTransfer hopens).mono fun r y t hy => ?_)
      cases r with
      | ok _ => exact hy
      | error e =>
        refine (kind_waitForRetry (x := y)).mono fun r z u hz => ?_
        exact ⟨hz.1.trans hy.1, fun h => absurd h hz.2⟩
    · refine safe_getObj fun obj' hobj' => ?_
      exact kind_createExternalTransObj (.startCurrent hobj' (.inr (hy.2 rfl)))
  · refine safe_getObj fun obj' hobj' => ?_
    cases hobj.symm.trans hobj'
    exact kind_createExternalTransObj (.startCurrent hobj (.inl hopens))

theorem kind_onExternalChainSuccessCallback (hx : x.act = .report .external true txId) :
    redemptionKind.Safe env (onExternalChainSuccessCallback ref txId) x s :=
  safe_verifyTxId fun _ hobj _ => safe_changeState (.succeed hx hobj) kind_success fun _ => rfl

theorem kind_retryToTx (hx : x.act = .report .external false txId) (hlive : s.Live ref obj)
    (hstate : obj.curStateId = REDEMPTION_ORDER_STATE_ID.EXTERNAL_WAIT_ON_CHAIN)
    (htx : txId = obj.entity.walletTxId) : redemptionKind.Safe env (retryToTx env ref txId) x s := by
  refine .store (Safe.seq (Q := fun _ y _ => y = { x with act := .failed ref })
    (follows_update.2 ⟨_, .reject hx hlive hstate htx fun _ => ⟨rfl, rfl⟩, rfl⟩)
    (fun _ _ _ hy => hy ▸ rfl) fun _ y t hy => ⟨hy ▸ rfl, ?_⟩)
  refine Safe.seq (follows_save fun _ _ => .inr (.inl (hy ▸ rfl))) (fun _ _ _ h => h ▸ rfl)
    fun _ z u hz => ⟨hz ▸ rfl, ?_⟩
  refine safe_getObj fun obj' hobj' => ?_
  split
  · exact .pure
  · next hnum =>
    exact safe_changeState (.giveUp (hz ▸ hy ▸ rfl) hobj' (Nat.lt_of_not_le hnum))
      kind_externalOnChainFail fun _ => rfl

theorem kind_onExternalChainFailCallback (hlive : s.Live ref obj)
    (hstate : obj.curStateId = REDEMPTION_ORDER_STATE_ID.EXTERNAL_WAIT_ON_CHAIN)
    (hx : x.act = .report .external false txId) :
    redemptionKind.Safe env (onExternalChainFailCallback env ref txId) x s := by
  refine safe_verifyTxId fun obj' hobj' htx => ?_
  cases hlive.2.symm.trans hobj'
  exact kind_retryToTx hx hlive hstate htx

end ExternalWaitOnChain

open ExternalWaitOnChain in
theorem kind_externalWaitOnChain :
    redemptionKind.StateSafe env .EXTERNAL_WAIT_ON_CHAIN (externalWaitOnChain env) where
  enter _ _ _ hstate _ := Safe.seq (follows_saveState fun _ hobj => .inr (hstate _ hobj))
    (fun _ _ _ hy => hy.1) fun _ _ _ hy => ⟨hy.1, (kind_onEnterState (hy.2 rfl)).bind
      fun _ _ _ => .pure⟩
  onTick _ _ _ := kind_onTick
  onToTxStartCallback _ _ _ _ hlive hstate hx := kind_startTransfer hlive hstate hx
  onInternalChainTryTransferCallback _ _ _ _ _ _ _ _ := .pure
  onChainCallback side success _ _ _ _ _ hlive hstate hx := by
    cases side <;> cases success
    case external.false => exact kind_onExternalChainFailCallback hlive hstate hx
    case external.true => exact kind_onExternalChainSuccessCallback hx
    case internal.false => exact .pure
    case internal.true => exact .pure

/-! ## `InternalWaitOnChain_RedemptionOrderState` -/

namespace InternalWaitOnChain

theorem kind_onEnterState : redemptionKind.Safe env (onEnterState ref) x s := by
  refine safe_getObj fun obj _ => (safe_silent rfl).bind fun _ _ _ => safe_touch fun _ => ?_
  exact ⟨rfl, rfl, rfl, rfl, rfl⟩

theorem kind_onTick : redemptionKind.Safe env (onTick ref) x s := by
  refine safe_getObj fun obj _ => ?_
  split
  · refine (safe_silent rfl).bind fun _ _ _ => safe_touch fun _ => ?_
    exact ⟨rfl, rfl, rfl, rfl, rfl⟩
  · exact .pure

theorem kind_onInternalChainSuccessCallback (hlive : s.Live ref obj)
    (hstate : obj.curStateId = REDEMPTION_ORDER_STATE_ID.INTERNAL_WAIT_ON_CHAIN)
    (hx : x.act = .report .internal true txId) :
    redemptionKind.Safe env (onInternalChainSuccessCallback env ref txId) x s := by
  refine safe_verifyTxId fun obj' hobj' htx => ?_
  cases hlive.2.symm.trans hobj'
  exact safe_changeState (.confirm hx hlive hstate htx) kind_externalWaitOnChain
    fun hfinal => absurd hfinal (not_final (.inr rfl))

theorem kind_onInternalChainFailCallback (hlive : s.Live ref obj)
    (hstate : obj.curStateId = REDEMPTION_ORDER_STATE_ID.INTERNAL_WAIT_ON_CHAIN)
    (hx : x.act = .report .internal false txId) :
    redemptionKind.Safe env (onInternalChainFailCallback ref txId) x s := by
  refine safe_verifyTxId fun obj' hobj' htx => ?_
  cases hlive.2.symm.trans hobj'
  exact safe_changeState (.refuse hx hlive hstate htx) kind_internalOnChainFail fun _ => rfl

end InternalWaitOnChain

open InternalWaitOnChain in
theorem kind_internalWaitOnChain :
    redemptionKind.StateSafe env .INTERNAL_WAIT_ON_CHAIN (internalWaitOnChain env) where
  enter _ _ _ hstate _ := (safe_saveState fun _ hobj => .inl (hstate _ hobj)).bind
    fun _ _ _ => kind_onEnterState.bind fun _ _ _ => .pure
  onTick _ _ _ := kind_onTick
  onToTxStartCallback _ _ _ _ _ _ _ := .pure
  onInternalChainTryTransferCallback _ _ _ _ _ _ _ _ := .pure
  onChainCallback side success _ _ _ _ _ hlive hstate hx := by
    cases side <;> cases success
    case external.false => exact .pure
    case external.true => exact .pure
    case internal.false => exact kind_onInternalChainFailCallback hlive hstate hx
    case internal.true => exact kind_onInternalChainSuccessCallback hlive hstate hx

/-! ## The manager -/

theorem kind_retryInternalOnChain : redemptionKind.Safe env (retryInternalOnChain env) x s := by
  refine (safe_silent rfl).bind fun order _ _ => (safe_silent rfl).bind fun updated _ _ => ?_
  refine Safe.throwIf.bind fun _ _ _ => ?_
  refine Safe.bind (.call .retryIncoming OrderPos.aside_made) fun affected _ _ => ?_
  exact Safe.throwIf.bind fun _ _ _ => safe_createOrderObj

theorem kind_retryExternalOnChain : redemptionKind.Safe env retryExternalOnChain x s := by
  refine .store (Safe.bind (.call .retryOutgoing OrderPos.aside_made) fun affected _ _ => ?_)
  exact Safe.throwIf.bind fun _ _ _ => safe_createOrderObj

theorem kind_mgr : redemptionKind.MgrSafe env (redemptionOrderMgr env) where
  states st := by
    cases st
    case INIT => exact stateSafe_base _
    case INTERNAL_WAIT_ON_CHAIN => exact kind_internalWaitOnChain
    case INTERNAL_ON_CHAIN_FAIL => exact kind_internalOnChainFail
    case EXTERNAL_WAIT_ON_CHAIN => exact kind_externalWaitOnChain
    case EXTERNAL_ON_CHAIN_FAIL => exact kind_externalOnChainFail
    case SUCCESS => exact kind_success
  setOrderPending _ := ⟨rfl, rfl⟩
  init _ _ := not_final (.inl rfl)
  pending _ hpending := not_final (of_decide_eq_true hpending)
  onQueueInited _ _ _ := .pure
  retryExternalOnChain _ _ := kind_retryExternalOnChain
  retryInternalOnChain _ _ := kind_retryInternalOnChain

end RedemptionOrder

end CotServer
