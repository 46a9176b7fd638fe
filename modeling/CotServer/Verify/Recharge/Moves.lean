import CotServer.Verify.Order.Follows
import CotServer.Verify.Recharge.Order

/-!
# The functions of a recharge order follow its moves
-/

namespace CotServer

open Async Moves OrderKind

def rechargeKind : OrderKind RechargeOrder RECHARGE_ORDER_STATE_ID where
  toTransfers := rechargeTransfers
  incomingWait := .EXTERNAL_WAIT_ON_CHAIN
  incomingFail := .EXTERNAL_ON_CHAIN_FAIL
  outgoingWait := .INTERNAL_WAIT_ON_CHAIN
  outgoingFail := .INTERNAL_ON_CHAIN_FAIL
  nodup := by decide
  retryMaxNum env := env.INTERNAL_TRANS_RETRY_MAX_NUM
  opens
    | .TRY_TRANSFER _ => true
    | _ => false
  guarded := true

namespace RechargeOrder

variable {env : OrderEnv} {x : OrderPos RechargeOrder} {s : OrderStore RechargeOrder} {ref : Ref}
  {obj : RechargeOrderObj} {txId : JsString}

/-! ## Final states -/

theorem kind_externalOnChainFail :
    rechargeKind.StateSafe env .EXTERNAL_ON_CHAIN_FAIL externalOnChainFail :=
  stateSafe_final (.inl rfl) fun _ _ _ _ _ => follows_pure.2 rfl

theorem kind_internalOnChainFail :
    rechargeKind.StateSafe env .INTERNAL_ON_CHAIN_FAIL internalOnChainFail :=
  stateSafe_final (.inr (.inl rfl)) fun _ _ _ _ _ => follows_pure.2 rfl

theorem kind_success : rechargeKind.StateSafe env .SUCCESS success := stateSafe_announces

/-! ## `InternalWaitOnChain_RechargeOrderState` -/

namespace InternalWaitOnChain

theorem kind_onTick : rechargeKind.Safe env (onTick ref) x s := by
  refine safe_getObj fun obj _ => .store ?_
  split
  · refine Safe.bind (safe_touch fun _ => ?_) fun _ _ _ => safe_publish
    exact ⟨rfl, rfl, rfl, rfl, rfl⟩
  · exact .pure

theorem kind_onEnterState : rechargeKind.Safe env (onEnterState ref) x s :=
  .update (.aux ⟨rfl, rfl, rfl, rfl, rfl, rfl, rfl, rfl, rfl, rfl⟩) rfl

theorem kind_onQueueInited : rechargeKind.Safe env (onQueueInited ref) x s := by
  refine safe_getObj fun obj _ => ?_
  split
  · exact .pure
  · exact safe_publish

theorem kind_onToTxStartCallback : rechargeKind.Safe env (onToTxStartCallback env ref) x s := by
  refine safe_getObj fun obj _ => ?_
  split
  · exact safe_publish
  · exact .pure

/-- The end of a create: the transaction is in the object. -/
def Recorded (ref : Ref) (x : OrderPos RechargeOrder) (r : Except Err JsString)
    (y : OrderPos RechargeOrder) (_ : OrderStore RechargeOrder) : Prop :=
  y.made = x.made ∧ ∀ txId, r = .ok txId → y.act = .recorded ref txId

theorem follows_recordTx (hx : x.act = .holding ref txId) :
    (orderMoves rechargeKind env).Follows (do
      OrderObj.modifyObj ref (RechargeOrderObj.setRechargeTxId txId)
      OrderObj.save ref
      return txId : RechargeAsync JsString) (Recorded ref x) x s := by
  have hsets : rechargeKind.SetsOutTx txId (RechargeOrderObj.setRechargeTxId txId) :=
    fun _ => ⟨rfl, rfl⟩
  refine follows_bind.2 (follows_update.2 ⟨_, .record hx hsets, ?_⟩)
  refine follows_bind.2 ((follows_save fun obj hobj => .inr (.inr ?_)).mono fun r y t hy => ?_)
  · rw [outTx_modify hsets hobj]
  subst hy
  cases r with
  | error e => exact ⟨rfl, fun _ h => (nomatch h)⟩
  | ok _ => exact follows_pure.2 ⟨rfl, fun _ h => Except.ok.inj h ▸ rfl⟩

theorem follows_forceGetRWKeypair {accountType : JsString} {k : JsString → RechargeAsync JsString}
    (h : ∀ secret, (orderMoves rechargeKind env).Follows (k secret) (Recorded ref x) x s) :
    (orderMoves rechargeKind env).Follows (forceGetRWKeypair accountType >>= k) (Recorded ref x) x
      s := by
  refine follows_bind.2 (follows_bind.2 (follows_store.2 ?_))
  dsimp only
  split
  · exact h _
  · exact ⟨rfl, fun _ h => (nomatch h)⟩

/-- A create call, and what comes after it. -/
theorem follows_create {op : OrderOp RechargeOrder RECHARGE_ORDER_STATE_ID} {y : OrderPos RechargeOrder}
    {k : op.Ans → RechargeAsync JsString} (hwait : OrderWait rechargeKind env x s op y)
    (hmade : y.made = x.made)
    (hok : ∀ a t, (orderMoves rechargeKind env).Follows (k a) (Recorded ref x) (y.receive op (.ok a)) t) :
    (orderMoves rechargeKind env).Follows (call op >>= k) (Recorded ref x) x s := by
  refine follows_bind.2 (follows_call.2 ⟨y, hwait, fun r t => ?_⟩)
  cases r with
  | error e => exact ⟨OrderPos.receive_made.trans hmade, fun _ h => (nomatch h)⟩
  | ok a => exact hok a t

theorem follows_createTransfer {order : RechargeOrder}
    (hopens : rechargeKind.Opens env x s ref obj) :
    (orderMoves rechargeKind env).Follows (createTransfer ref order) (Recorded ref x) x s := by
  unfold createTransfer
  dsimp only
  split
  · refine follows_create (.prepare hopens) rfl fun recharge t => ?_
    refine follows_forceGetRWKeypair (x := { x with act := .sending ref }) fun secret => ?_
    refine follows_bind.2 (follows_settle.2 ?_)
    cases RechargeHelper.checkChainAssetItem recharge order.internalChain
        order.rechargeAssetType with
    | error e => exact ⟨rfl, fun _ h => (nomatch h)⟩
    | ok rechargeItem =>
      refine follows_create (.createPrepared rfl rfl) rfl fun txId u => ?_
      exact follows_recordTx (x := { x with act := .holding ref txId }) rfl
  · refine follows_forceGetRWKeypair fun secret => ?_
    refine follows_create (.create rfl hopens) rfl fun txId u => ?_
    exact follows_recordTx (x := { x with act := .holding ref txId }) rfl
  · exact ⟨rfl, fun _ h => (nomatch h)⟩

/-- A start, once it is on record. -/
theorem kind_createInternalTransObj {chainName : JsString}
    (hmove : OrderMove rechargeKind env x s { x with act := .starting }
      { s with started := txId :: s.started }) :
    rechargeKind.Safe env (createInternalTransObj chainName txId) x s := by
  refine follows_bind.2 (follows_update.2 ⟨_, hmove, follows_call.2 ⟨_, .start rfl rfl, ?_⟩⟩)
  exact fun _ _ => OrderPos.receive_made

theorem kind_startTransfer {accountType : Option INTERNAL_CHAIN_RW_ACCOUNT_TYPE}
    (hlive : s.Live ref obj)
    (hstate : obj.curStateId = RECHARGE_ORDER_STATE_ID.INTERNAL_WAIT_ON_CHAIN)
    (hx : x.act = .delivered (.TRY_TRANSFER accountType)) :
    rechargeKind.Safe env (startTransfer env ref) x s := by
  refine safe_getObj fun obj' hobj => ?_
  obtain rfl : obj = obj' := Option.some.inj (hlive.2.symm.trans hobj)
  dsimp only
  split
  · exact .pure
  split
  · exact .pure
  next hfinish =>
  have hopens : rechargeKind.Opens env x s ref obj := by
    refine ⟨⟨_, hx, rfl⟩, hlive, hstate, fun _ => ?_⟩
    simp only [RechargeOrderObj.isRechargeTxFinish, Bool.or_eq_true, decide_eq_true_eq,
      not_or] at hfinish
    exact Nat.le_of_not_lt hfinish.2
  split
  · refine Safe.seq (Q := Recorded ref x) ?_ (fun _ _ _ h => h.1) fun txId y t hy => ⟨hy.1, ?_⟩
    · refine follows_tryCatch.2 ((follows_createTransfer hopens).mono fun r y t hy => ?_)
      cases r with
      | ok txId => exact hy
      | error e =>
        have hmade : y.aside.made = x.made := OrderPos.aside_made.trans hy.1
        refine follows_bind.2 (follows_call.2 ⟨y.aside, .silent rfl, fun r t => ?_⟩)
        cases r with
        | error e => exact ⟨hmade, fun _ h => (nomatch h)⟩
        | ok _ => exact ⟨hmade, fun _ h => (nomatch h)⟩
    · exact kind_createInternalTransObj (.startOwn (hy.2 _ rfl))
  · exact kind_createInternalTransObj (.startCurrent hobj (.inl hopens))

theorem kind_onInternalChainSuccessCallback (hlive : s.Live ref obj)
    (hstate : obj.curStateId = RECHARGE_ORDER_STATE_ID.INTERNAL_WAIT_ON_CHAIN)
    (hx : x.act = .report .internal true txId) :
    rechargeKind.Safe env (onInternalChainSuccessCallback ref txId) x s := by
  refine safe_verifyTxId fun obj _ _ => ?_
  have hflag : ∀ obj : RechargeOrderObj, rechargeKind.SameLegs obj
      (if obj.entity.rechargeTxId = txId then obj.setRechargeTxOnChain true else obj) := by
    intro obj
    split <;> exact ⟨rfl, rfl, rfl, rfl, rfl⟩
  refine Safe.seq (Q := fun _ y t => y = x ∧ ∃ obj, t.Live ref obj ∧
      obj.curStateId = RECHARGE_ORDER_STATE_ID.INTERNAL_WAIT_ON_CHAIN)
    (follows_update.2 ⟨x, .touch ref hflag, rfl, _, hlive.modify, (hflag _).state.trans hstate⟩)
    (fun _ _ _ hy => hy.1 ▸ rfl) fun _ y t hy => ?_
  obtain ⟨rfl, obj, hlive, hstate⟩ := hy
  refine ⟨rfl, Safe.seq (follows_saveLive hlive hstate (OrderPos.aside_report hx))
    (fun _ _ _ h => h ▸ rfl) fun _ z u hz => ⟨hz ▸ rfl, ?_⟩⟩
  refine safe_getObj fun obj hobj => ?_
  split
  · exact safe_changeState (.succeed (hz ▸ hx) hobj) kind_success fun _ => rfl
  · exact .pure

theorem kind_retryToTx (hx : x.act = .report .internal false txId) (hlive : s.Live ref obj)
    (hstate : obj.curStateId = RECHARGE_ORDER_STATE_ID.INTERNAL_WAIT_ON_CHAIN)
    (htx : txId = obj.entity.rechargeTxId) : rechargeKind.Safe env (retryToTx env ref txId) x s := by
  refine .store (Safe.seq (Q := fun _ y _ => y = { x with act := .failed ref })
    (follows_update.2 ⟨_, .reject hx hlive hstate htx fun _ => ⟨rfl, rfl⟩, rfl⟩)
    (fun _ _ _ hy => hy ▸ rfl) fun _ y t hy => ⟨hy ▸ rfl, ?_⟩)
  refine Safe.seq (follows_save fun _ _ => .inr (.inl (hy ▸ rfl))) (fun _ _ _ h => h ▸ rfl)
    fun _ z u hz => ⟨hz ▸ rfl, ?_⟩
  refine safe_getObj fun obj' hobj' => ?_
  split
  · exact .pure
  · next hnum =>
    split
    · exact safe_changeState (.giveUp (hz ▸ hy ▸ rfl) hobj' (Nat.lt_of_not_le hnum))
        kind_internalOnChainFail fun _ => rfl
    · exact .pure

theorem kind_onInternalChainFailCallback (hlive : s.Live ref obj)
    (hstate : obj.curStateId = RECHARGE_ORDER_STATE_ID.INTERNAL_WAIT_ON_CHAIN)
    (hx : x.act = .report .internal false txId) :
    rechargeKind.Safe env (onInternalChainFailCallback env ref txId) x s := by
  refine safe_verifyTxId fun obj' hobj' htx => safe_getObj fun obj'' _ => ?_
  cases hlive.2.symm.trans hobj'
  split
  · exact kind_retryToTx hx hlive hstate htx
  · exact .pure

end InternalWaitOnChain

open InternalWaitOnChain in
theorem kind_internalWaitOnChain :
    rechargeKind.StateSafe env .INTERNAL_WAIT_ON_CHAIN (internalWaitOnChain env) where
  enter _ _ _ hstate _ := (safe_saveState fun _ hobj => .inr (hstate _ hobj)).bind
    fun _ _ _ => kind_onEnterState.bind fun _ _ _ => .pure
  onTick _ _ _ := kind_onTick
  onToTxStartCallback _ _ _ _ _ _ _ := kind_onToTxStartCallback
  onInternalChainTryTransferCallback _ _ _ _ _ hlive hstate hx := kind_startTransfer hlive hstate hx
  onChainCallback side success _ _ _ _ _ hlive hstate hx := by
    cases side <;> cases success
    case external.false => exact .pure
    case external.true => exact .pure
    case internal.false => exact kind_onInternalChainFailCallback hlive hstate hx
    case internal.true => exact kind_onInternalChainSuccessCallback hlive hstate hx

/-! ## `ExternalWaitOnChain_RechargeOrderState` -/

namespace ExternalWaitOnChain

theorem kind_createExternalTransObj : rechargeKind.Safe env (createExternalTransObj ref) x s := by
  refine safe_getObj fun obj _ => (safe_silent rfl).bind fun _ _ _ => safe_touch fun _ => ?_
  exact ⟨rfl, rfl, rfl, rfl, rfl⟩

theorem kind_onTick : rechargeKind.Safe env (onTick ref) x s := by
  refine safe_getObj fun obj _ => ?_
  split
  · exact kind_createExternalTransObj
  · exact .pure

theorem kind_onEnterState (href : x.entered = some ref) :
    rechargeKind.Safe env (onEnterState env ref) x s := by
  refine Safe.seq follows_isDevTest (fun _ _ _ h => h.1) fun devTest y t hy => ⟨hy.1, ?_⟩
  split
  · next hdev =>
    obtain ⟨htested, hentered⟩ := hy.2 (congrArg _ hdev)
    have hnot : ¬ rechargeKind.Final RECHARGE_ORDER_STATE_ID.INTERNAL_WAIT_ON_CHAIN :=
      not_final (.inr rfl)
    exact safe_changeState (.pass htested (hentered.trans href) (.inl rfl) (.inr ⟨hnot, rfl⟩))
      kind_internalWaitOnChain fun hfinal => absurd hfinal hnot
  · exact kind_createExternalTransObj

theorem kind_onExternalChainSuccessCallback (hlive : s.Live ref obj)
    (hstate : obj.curStateId = RECHARGE_ORDER_STATE_ID.EXTERNAL_WAIT_ON_CHAIN)
    (hx : x.act = .report .external true txId) :
    rechargeKind.Safe env (onExternalChainSuccessCallback env ref txId) x s := by
  refine safe_verifyTxId fun obj' hobj' htx => ?_
  cases hlive.2.symm.trans hobj'
  exact safe_changeState (.confirm hx hlive hstate htx) kind_internalWaitOnChain
    fun hfinal => absurd hfinal (not_final (.inr rfl))

theorem kind_onExternalChainFailCallback (hlive : s.Live ref obj)
    (hstate : obj.curStateId = RECHARGE_ORDER_STATE_ID.EXTERNAL_WAIT_ON_CHAIN)
    (hx : x.act = .report .external false txId) :
    rechargeKind.Safe env (onExternalChainFailCallback ref txId) x s := by
  refine safe_verifyTxId fun obj' hobj' htx => ?_
  cases hlive.2.symm.trans hobj'
  exact safe_changeState (.refuse hx hlive hstate htx) kind_externalOnChainFail fun _ => rfl

end ExternalWaitOnChain

open ExternalWaitOnChain in
theorem kind_externalWaitOnChain :
    rechargeKind.StateSafe env .EXTERNAL_WAIT_ON_CHAIN (externalWaitOnChain env) where
  enter _ _ _ hstate _ := Safe.seq (follows_saveState fun _ hobj => .inl (hstate _ hobj))
    (fun _ _ _ hy => hy.1) fun _ _ _ hy => ⟨hy.1, (kind_onEnterState (hy.2 rfl)).bind
      fun _ _ _ => .pure⟩
  onTick _ _ _ := kind_onTick
  onToTxStartCallback _ _ _ _ _ _ _ := .pure
  onInternalChainTryTransferCallback _ _ _ _ _ _ _ _ := .pure
  onChainCallback side success _ _ _ _ _ hlive hstate hx := by
    cases side <;> cases success
    case external.false => exact kind_onExternalChainFailCallback hlive hstate hx
    case external.true => exact kind_onExternalChainSuccessCallback hlive hstate hx
    case internal.false => exact .pure
    case internal.true => exact .pure

/-! ## The manager -/

theorem kind_retryExternalOnChain : rechargeKind.Safe env (retryExternalOnChain env) x s := by
  refine (safe_silent rfl).bind fun order _ _ => (safe_silent rfl).bind fun updated _ _ => ?_
  refine Safe.throwIf.bind fun _ _ _ => ?_
  refine Safe.bind (.call .retryIncoming OrderPos.aside_made) fun affected _ _ => ?_
  exact Safe.throwIf.bind fun _ _ _ => safe_createOrderObj

theorem kind_retryInternalOnChain : rechargeKind.Safe env retryInternalOnChain x s := by
  refine .store (Safe.bind (.call .retryOutgoing OrderPos.aside_made) fun affected _ _ => ?_)
  exact Safe.throwIf.bind fun _ _ _ => safe_createOrderObj

theorem kind_mgr : rechargeKind.MgrSafe env (rechargeOrderMgr env) where
  states st := by
    cases st
    case INIT => exact stateSafe_base _
    case EXTERNAL_WAIT_ON_CHAIN => exact kind_externalWaitOnChain
    case EXTERNAL_ON_CHAIN_FAIL => exact kind_externalOnChainFail
    case INTERNAL_WAIT_ON_CHAIN => exact kind_internalWaitOnChain
    case INTERNAL_ON_CHAIN_FAIL => exact kind_internalOnChainFail
    case SUCCESS => exact kind_success
  setOrderPending e := by
    simp only [rechargeOrderMgr, setOrderPending]
    split <;> exact ⟨rfl, rfl⟩
  init e hinit := by
    have hstate : e.state = .INIT := of_decide_eq_true hinit
    change ¬ rechargeKind.Final (setOrderPending e).state
    simp only [setOrderPending]
    split
    · exact not_final (.inl rfl)
    · exact not_final (.inr rfl)
    · simp [OrderKind.Final, rechargeKind, rechargeTransfers, hstate]
  pending _ hpending := not_final (of_decide_eq_true hpending)
  onQueueInited _ _ _ := InternalWaitOnChain.kind_onQueueInited
  retryExternalOnChain _ _ := kind_retryExternalOnChain
  retryInternalOnChain _ _ := kind_retryInternalOnChain

end RechargeOrder

end CotServer
