import CotServer.Verify.Order.Awake

/-!
# Runs that leave every order awake

The events of the order worker, from what the states of a kind do.
-/

namespace CotServer

open Async OrderObj

variable {E S : Type} [OrderEntity E S]

namespace LegKind

variable (K : LegKind E S) (env : OrderEnv)

/-- The functions of the kind leave the order awake. -/
structure Woken (answer : (op : OrderOp E S) → OrderStore E → Except Err op.Ans → OrderStore E →
    Prop) : Prop where
  start : K.wakes .TO_TX_START = true
  noAccount : K.wakes (.TRY_TRANSFER none) = false
  success : K.wakes .SUCCESS = false
  reconnects : (K.mgr env).reconnects K.outgoingWait = true
  states : ∀ st, K.HandlersWake env answer st ((K.mgr env).states st)
  onQueueInited : ∀ since s ref, since ≤ s.now →
    (∀ ref' obj, s.Live ref' obj → (K.queues = true → ref' ≠ ref) → K.Needs obj →
      K.Continues since s ref' obj) →
    Post answer ((K.mgr env).onQueueInited ref) s fun _ t => K.Awake since t
  retryExternalOnChain : (K.mgr env).retryExternalOnChain.Keeps answer OrderStore.Quiet
  retryInternalOnChain : (K.mgr env).retryInternalOnChain.Keeps answer OrderStore.Quiet

variable {K env} {since : Nat} {s t : OrderStore E} {ref : Ref} {obj : OrderObj E}
  {message : OrderMessage}
variable {answer : (op : OrderOp E S) → OrderStore E → Except Err op.Ans → OrderStore E → Prop}

/-- The live object is handed to the handler of its state. -/
theorem post_dispatch {mgr : OrderMgr E S} {handler : OrderState E S → Ref → OrderAsync E S Unit}
    {Q : Except Err Unit → OrderStore E → Prop}
    (hnone : (∀ ref obj, ¬ s.Live ref obj) → ∀ r, Q r s)
    (hlive : ∀ ref obj, s.Live ref obj → Post answer (handler (mgr.states obj.curStateId) ref) s Q) :
    Post answer (mgr.dispatch handler) s Q := by
  intro r t hrun
  by_cases hexists : ∃ ref obj, s.Live ref obj
  · obtain ⟨ref, obj, h⟩ := hexists
    exact hlive ref obj h r t ((runs_dispatch h).1 hrun)
  · rcases runs_dispatch_cases hrun with rfl | ⟨ref, obj, h, -⟩
    · exact hnone (fun ref obj h => hexists ⟨ref, obj, h⟩) r
    · exact absurd ⟨ref, obj, h⟩ hexists

/-- An order that waits for its transaction has not used up its limit. -/
theorem not_exhausted (hkept : K.outgoingFail ≠ K.outgoingWait) (hbudget : K.InBudget env s)
    (hlive : s.Live ref obj) : ¬ (obj.curStateId = K.outgoingWait ∧ K.Exhausted env obj) := by
  rintro ⟨hwait, hexhausted⟩
  exact hkept ((hbudget.bounded ref obj hlive.2 hexhausted).2.symm.trans hwait)

theorem awake_replyIpc {request : IpcRequest} (hawake : K.Awake since s) :
    Post answer (OrderMgr.replyIpc request : OrderAsync E S Unit) s fun _ t => K.Awake since t := by
  refine post_update.2 (hawake.quiet ⟨?_, List.Subset.refl _⟩)
  exact ⟨rfl, rfl, rfl, rfl, rfl, rfl, rfl, rfl⟩

section Functions

variable (h : K.Woken env answer)

include h

/-- The consumer of a message that has been taken. -/
theorem Woken.consume (hkept : K.outgoingFail ≠ K.outgoingWait) (hbudget : K.InBudget env s)
    (hnow : since ≤ s.now) (hother : K.wakes message = false → K.Awake since s) :
    Post answer ((K.mgr env).consume message) s (K.Consumed message since) := by
  have hnone : ∀ {message}, (∀ ref obj, ¬ s.Live ref obj) → ∀ r, K.Consumed message since r s :=
    fun hnone r => ⟨hnow, fun _ => .of_none hnow hnone⟩
  cases message with
  | TO_TX_START =>
    change Post answer ((K.mgr env).dispatch fun state ref => state.onToTxStartCallback ref) s _
    refine post_dispatch hnone fun ref obj hlive => ?_
    exact (h.states _).onToTxStartCallback since s ref obj hnow hlive rfl
      (not_exhausted hkept hbudget hlive) hother
  | TRY_TRANSFER accountType =>
    cases accountType with
    | none => exact post_pure.2 ⟨hnow, fun _ => hother h.noAccount⟩
    | some accountType =>
      change Post answer ((K.mgr env).dispatch fun state ref =>
        state.onInternalChainTryTransferCallback ref accountType) s _
      refine post_dispatch hnone fun ref obj hlive => ?_
      exact (h.states _).onInternalChainTryTransferCallback since s ref obj accountType hnow hlive
        rfl (not_exhausted hkept hbudget hlive) hother
  | SUCCESS => exact post_pure.2 ⟨hnow, fun _ => hother h.success⟩

/-- A message whose consumer throws is there again. -/
theorem Woken.deliver (hkept : K.outgoingFail ≠ K.outgoingWait) (hbudget : K.InBudget env s)
    (hnow : since ≤ s.now) (hother : K.wakes message = false → K.Awake since s) :
    Post answer ((K.mgr env).deliver message) s fun _ t => K.Awake since t := by
  refine post_tryCatch.2 ((h.consume hkept hbudget hnow hother).mono fun r t ht => ?_)
  obtain ⟨hnow, hawake⟩ := ht
  cases r with
  | ok a => exact hawake (.inl rfl)
  | error e =>
    refine post_update_bind (post_throw.2 ?_)
    cases hwakes : K.wakes message with
    | true =>
      refine .of_message message hnow ?_ hwakes
      exact List.mem_append_right _ (List.mem_singleton_self _)
    | false =>
      refine (hawake (.inr hwakes)).quiet ⟨?_, List.subset_append_left _ _⟩
      exact ⟨rfl, rfl, rfl, rfl, rfl, rfl, rfl, rfl⟩

theorem Woken.enterNew {entity : E} (hnow : since ≤ s.now) :
    Post answer ((K.mgr env).enterNew entity s.heap.length) (OrderMgr.newObj entity s)
      fun _ t => K.Awake since t := by
  refine awake_change ((h.states _).enter since _ _ { entity } hnow ⟨rfl, ?_⟩ rfl)
  simp [OrderMgr.newObj, OrderStore.openChange]

variable (hsure : Sure env answer)

include hsure

theorem Woken.createOrderObjById {request : IpcRequest} (hawake : K.Awake since s) :
    Post answer ((K.mgr env).createOrderObjById request) s fun _ t => K.Awake since t := by
  refine post_store_bind ?_
  split
  · exact awake_replyIpc hawake
  refine post_bind.2 (post_quiet hsure fun r t hquiet => ?_)
  have hread := hawake.quiet hquiet
  cases r with
  | error e => exact hread
  | ok entity =>
    refine post_store_bind ?_
    split
    · exact awake_replyIpc hread
    refine post_update_bind (post_bind.2 ?_)
    refine (h.enterNew hread.now).mono fun r u hu => ?_
    cases r with
    | error e => exact hu
    | ok a => exact awake_replyIpc hu

/-- The handler of a report. -/
theorem Woken.onChainCallback {report : Report} (hawake : K.Awake since s) :
    Post answer ((K.mgr env).onChainCallback report.side report.success report.txId) s
      fun r t => K.Awake since (t.reported K.outgoing (.onChain report) r) := by
  refine post_bind.2 (post_quiet hsure fun r t hquiet => ?_)
  have hread := hawake.quiet hquiet
  cases r with
  | error e => exact hread
  | ok a =>
    refine post_dispatch ?_ fun ref obj hlive => ?_
    · intro hnone r
      have hnow : since ≤ (t.reported K.outgoing (.onChain report) r).now := by
        rw [reported_now]
        exact hread.now
      refine .of_none hnow fun ref obj hlive => hnone ref obj ?_
      exact live_reported.1 hlive
    · exact (h.states _).onChainCallback since t ref obj report hread hlive rfl

/-- After the connection has been lost, the order is published again. -/
theorem Woken.processMqReConnect (hnow : since ≤ s.now) :
    Post answer (K.mgr env).processMqReConnect s fun _ t => K.Awake since t := by
  refine post_store_bind ?_
  split
  · next hnone =>
    refine post_pure.2 (.of_none hnow fun ref obj hlive => ?_)
    rw [hlive.1] at hnone
    cases hnone
  · next ref hprocessing =>
    cases hobj : s.heap[ref]? with
    | none =>
      refine post_getObj_none hobj fun e => .of_none hnow fun ref' obj hlive => ?_
      rw [hlive.1] at hprocessing
      cases hprocessing
      rw [hlive.2] at hobj
      cases hobj
    | some obj =>
      refine post_getObj hobj ?_
      split
      · exact post_wake hsure hnow h.start
      · next hreconnects =>
        refine post_pure.2 (.of_live hnow ⟨hprocessing, hobj⟩ fun hneeds => absurd ?_ hreconnects)
        rw [hneeds.1]
        exact h.reconnects

end Functions

/-! ## Events -/

section Events

variable {e : OrderEvt} {r : Except Err Unit}

/-- Only a report is taken off the record of what is started. -/
theorem reported_eq (he : ∀ report, e ≠ .onChain report) : t.reported K.outgoing e r = t := by
  unfold OrderStore.reported
  split
  · next report _ => exact absurd rfl (he report)
  · rfl

/-- An event that leaves the order, its queue and its messages as they are. -/
theorem Awake.aside (h : K.Awake since s) (hheap : t.heap = s.heap)
    (hprocessing : t.processing = s.processing) (hnow : s.now ≤ t.now)
    (hmessages : t.messages = s.messages) (hwaiting : t.waiting = s.waiting)
    (hstarted : t.started = s.started) : K.Awake since t := by
  refine h.later ?_ hnow ?_ ?_ ?_
  · rintro ref obj ⟨hlive, hobj⟩
    exact ⟨hprocessing ▸ hlive, hheap ▸ hobj⟩
  · simp [hmessages]
  · simp [hwaiting]
  · simp [hstarted]

/-- An event without a function. -/
theorem Awake.event (h : K.Awake since s) (he : ∀ message, e ≠ .drop message)
    (hevent : (K.mgr env).event e s = some (t, none)) : K.Awake since t := by
  cases e <;> simp only [OrderMgr.event] at hevent
  case restart =>
    cases hevent
    refine .of_none h.now fun ref obj hlive => ?_
    cases hlive.1
  case clock ms =>
    cases hevent
    exact h.aside rfl rfl (Nat.le_add_right _ _) rfl rfl rfl
  case drop message => exact absurd rfl (he message)
  case queueInited =>
    cases hevent
    exact h.aside rfl rfl (Nat.le_refl _) rfl rfl rfl
  case setRWKeypair accountType secret =>
    cases hevent
    unfold OrderStore.setRWKeypair
    split
    · exact h
    · exact h.aside rfl rfl (Nat.le_refl _) rfl rfl rfl
  case setExternalKeypair chainName assetType account =>
    cases hevent
    unfold OrderStore.setExternalKeypair
    dsimp only
    split
    · exact h
    · exact h.aside rfl rfl (Nat.le_refl _) rfl rfl rfl
  case saveConfig config =>
    cases hevent
    exact h.aside rfl rfl (Nat.le_refl _) rfl rfl rfl
  all_goals (repeat' split at hevent) <;> cases hevent

/-- The function that an event starts. -/
theorem Woken.event (h : K.Woken env answer) (hsure : Sure env answer)
    (hkept : K.outgoingFail ≠ K.outgoingWait) (hbudget : K.InBudget env s) (hnow : since ≤ s.now)
    (hawake : e ≠ .mqReConnect → K.Awake since s) {tag : OrderProcess} {p : OrderAsync E S Unit}
    (hevent : (K.mgr env).event e s = some (t, some (tag, p))) :
    Post answer p t fun r u => K.Awake since (u.reported K.outgoing e r) := by
  cases e <;> simp only [OrderMgr.event] at hevent
  case setOrderPending =>
    split at hevent <;> cases hevent
    exact h.enterNew hnow
  case load =>
    split at hevent <;> cases hevent
    exact h.enterNew hnow
  case tick =>
    cases hevent
    have hlives := hawake (by simp)
    refine post_dispatch (fun hnone _ => .of_none hnow hnone) fun ref obj hlive => ?_
    exact (h.states _).onTick since s ref obj hlives hlive rfl
  case deliver message again =>
    have hlives := hawake (by simp)
    have htaken : K.wakes message = false → K.Awake since { s with
        messages := if again then s.messages else s.messages.erase message } := by
      intro hwakes
      cases again with
      | true => exact hlives
      | false => exact hlives.erase hwakes
    split at hevent <;> cases hevent
    exact h.deliver hkept (hbudget.evolves (.of_same rfl rfl)) hnow htaken
  case onChain report =>
    cases hevent
    exact h.onChainCallback hsure ((hawake (by simp)).aside rfl rfl (Nat.le_refl _) rfl rfl rfl)
  case mqReConnect =>
    cases hevent
    exact h.processMqReConnect hsure hnow
  case queueWaited k =>
    have hlives := hawake (by simp)
    split at hevent
    · next ref hwaiting =>
      split at hevent <;> cases hevent
      refine h.onQueueInited since _ ref hnow fun ref' obj hlive hother hneeds => ?_
      cases hlives.live ref' obj hlive hneeds with
      | message h hwakes => exact .message h hwakes
      | queue hqueues h =>
        obtain ⟨i, hi⟩ := List.mem_iff_getElem?.1 h
        refine .queue hqueues (List.mem_eraseIdx_iff_getElem?.2 ⟨i, ?_, hi⟩)
        rintro rfl
        rw [hi] at hwaiting
        exact hother hqueues (Option.some.inj hwaiting)
      | retry h hsince => exact .retry h hsince
      | started h => exact .started h
    · cases hevent
  case retryExternalOnChain =>
    cases hevent
    exact fun r u hrun => (hawake (by simp)).quiet (h.retryExternalOnChain _ r u hrun)
  case retryInternalOnChain =>
    cases hevent
    exact fun r u hrun => (hawake (by simp)).quiet (h.retryInternalOnChain _ r u hrun)
  case serveIpc request =>
    split at hevent <;> cases hevent
    exact h.createOrderObjById hsure ((hawake (by simp)).aside rfl rfl (Nat.le_refl _) rfl rfl rfl)
  all_goals cases hevent

end Events

/-! ## Runs -/

section Runs

variable [DecidableEq S]

theorem sureProgram_sure {mgr : OrderMgr E S} :
    Sure env (mgr.sureProgram env OrderOp.sure).answers where
  quiet _ _ _ _ h := ⟨sureProgram_memory h, sureProgram_messages h⟩
  save _ _ _ _ h := sureProgram_save rfl h
  saveState _ _ _ _ h := sureProgram_saveState rfl h
  publish _ _ _ _ h := sureProgram_publish rfl h
  isDevTest _ _ _ h := sureProgram_isDevTest rfl h

/-- Messages are lost before a reconnect only. -/
theorem enabled_cases {l : WorkerStep} (h : l.enabled = true) :
    (∀ message, l.event ≠ .drop message) ∧ (l.event ≠ .mqReConnect → l.lost = []) := by
  unfold WorkerStep.enabled at h
  split at h
  · cases h
  · next heq =>
    rw [heq]
    exact ⟨fun _ h => (by cases h), fun h => absurd rfl h⟩
  · next hdrop hreconnect =>
    exact ⟨fun message heq => hdrop message heq, fun _ => List.isEmpty_iff.1 h⟩

theorem run_drops {mgr : OrderMgr E S} (s : OrderStore E) (lost : List OrderMessage) :
    (mgr.program env).system.run ⟨s, []⟩ (lost.map fun message => .event (.drop message)) =
      some ⟨{ s with messages := s.messages.diff lost }, []⟩ := by
  induction lost generalizing s with
  | nil => rfl
  | cons message lost ih =>
    rw [List.diff_cons]
    exact ih { s with messages := s.messages.erase message }

/-- A step of the worker is a run of the interleaved program, up to the record of what has been
started. -/
theorem queueWorker_step {l : WorkerStep} (hstep : (K.queueWorker env).step s l = some t) :
    ∃ ls u r, ((K.mgr env).program env).system.run ⟨s, []⟩ ls = some ⟨u, []⟩ ∧
      t = u.reported K.outgoing l.event r := by
  simp only [queueWorker] at hstep
  split at hstep
  case isFalse => cases hstep
  obtain ⟨⟨r, u⟩, hhandle, rfl⟩ := Option.map_eq_some_iff.1 hstep
  obtain ⟨ls, hls⟩ := sureProgram_handle_run hhandle
  exact ⟨_, u, r, System.run_append (run_drops s l.lost) hls, rfl⟩

/-- A step leaves the order awake. -/
theorem Woken.step (h : K.Woken env ((K.mgr env).sureProgram env OrderOp.sure).answers)
    (hkept : K.Kept env ((K.mgr env).sureProgram env OrderOp.sure).answers)
    (hbudget : K.InBudget env s) (hawake : K.Awake since s) {l : WorkerStep}
    (hstep : (K.queueWorker env).step s l = some t) : K.InBudget env t ∧ K.Awake since t := by
  simp only [queueWorker] at hstep
  split at hstep
  case isFalse => cases hstep
  next henabled =>
  obtain ⟨hdrop, hlost⟩ := enabled_cases henabled
  obtain ⟨⟨r, u⟩, hhandle, rfl⟩ := Option.map_eq_some_iff.1 hstep
  have hbudget' : K.InBudget env { s with messages := s.messages.diff l.lost } :=
    hbudget.evolves (.of_same rfl rfl)
  have hlives : l.event ≠ .mqReConnect →
      K.Awake since { s with messages := s.messages.diff l.lost } := by
    intro he
    rw [hlost he]
    exact hawake
  refine ⟨(hbudget'.steps (hkept.handle hbudget' hhandle)).evolves ?_, ?_⟩
  · exact .of_same reported_heap reported_accepted
  rcases Program.handle_cases hhandle with ⟨hevent, -⟩ | ⟨v, tag, p, hevent, hrun⟩
  · have he : l.event ≠ .mqReConnect := by
      intro he
      rw [he] at hevent
      cases hevent
    rw [reported_eq]
    · exact (hlives he).event hdrop hevent
    · intro report he
      rw [he] at hevent
      cases hevent
  · exact h.event sureProgram_sure hkept.fail_ne_wait hbudget' hawake.now hlives hevent r u hrun

/-- In every run from before the first object, the order is awake. -/
theorem Woken.run (h : K.Woken env ((K.mgr env).sureProgram env OrderOp.sure).answers)
    (hkept : K.Kept env ((K.mgr env).sureProgram env OrderOp.sure).answers) (hheap : s.heap = [])
    (haccepted : s.accepted = []) {ls : List WorkerStep}
    (hrun : (K.queueWorker env).run s ls = some t) : K.Awake s.now t := by
  have hstart : K.InBudget env s ∧ K.Awake s.now s := by
    refine ⟨.start hheap haccepted, .of_none (Nat.le_refl _) fun ref obj hlive => ?_⟩
    have hobj := hlive.2
    rw [hheap] at hobj
    cases hobj
  refine (System.run_invariant (I := fun t => K.InBudget env t ∧ K.Awake s.now t)
    (C := fun _ _ => True) ?_ hstart (System.meets_true s ls) hrun).2
  intro t l u ht _ hstep
  exact h.step hkept ht.1 ht.2 hstep

end Runs

end LegKind

end CotServer
