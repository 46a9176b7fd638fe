import CotServer.Model.Sample
import CotServer.Theory.Alongside
import CotServer.Verify.Order.Requests
import CotServer.Verify.Recharge.Moves
import CotServer.Verify.Redemption.Moves

/-!
# Retries

A retry of the incoming transaction reads the row, has the wallet set the transaction back, moves
the row from its fail state to its wait state, and requests a logic object from the order worker. A
retry of the outgoing transaction begins with the row. Nothing is undone when a later step fails.

The order worker can find an object in the map that an earlier failure is about to take out; the
request is then answered although no object is left for the row that has been moved.
-/

namespace CotServer

open Async Moves Program OrderKind

section

variable {E S : Type} [OrderEntity E S]

abbrev OrderExchange (E S : Type) := Exchange (OrderStore E) (OrderOp.Ans (E := E) (S := S)) Err

/-- The row was in the first state, and has been moved to the second. -/
def OrderExchange.MovesRow (fail wait : S) (x : OrderExchange E S) : Prop :=
  OrderEntity.state x.before.row = fail ∧
    x.after = { x.before with row := OrderEntity.setState wait x.before.row }

/-- The order was read from a row in the state. -/
def OrderExchange.Reads (fail : S) (order : E) (x : OrderExchange E S) : Prop :=
  ∃ s : OrderStore E, x = ⟨.findOneByForce (some fail), s, .ok order, s⟩ ∧ s.row = order ∧
    OrderEntity.state order = fail

/-- What a retry has done when it ends, by its own steps `tr`, with the result `r` in the pool `c`.
When it returns, an object is in the map, or has been taken out of it since the row was moved. -/
structure OrderKind.RetryOutcome (K : OrderKind E S) (fail wait : S)
    (tr : List (OrderExchange E S)) (r : Except Err Unit) (c : OrderPool E S) : Prop where
  row : ∀ x ∈ tr, x.after.row = x.before.row ∨ OrderExchange.MovesRow fail wait x
  wallet : ∀ x ∈ tr, x.after.reset = x.before.reset ∨
    fail = K.incomingFail ∧ ∃ order, (∃ y ∈ tr, OrderExchange.Reads fail order y) ∧
      x.after.reset = (K.incoming, K.inTx order) :: x.before.reset
  throws : ∀ e, r = .error e → (∀ x ∈ tr, x.after.row = x.before.row) ∨
    ∃ request s, ⟨.ipcReply request, s, .error e, s⟩ ∈ tr
  returns : r = .ok () → ∃ x ∈ tr, OrderExchange.MovesRow fail wait x ∧
    ((∃ request s, ⟨.ipcReply request, s, .ok false, s⟩ ∈ tr) ∨
      c.store.LiveSince x.after.removed)

variable {K : OrderKind E S} {env : OrderEnv} {mgr : OrderMgr E S} {fail wait : S}

/-- A step before the row is moved. -/
theorem OrderKind.RetryOutcome.cons {x : OrderExchange E S} {tr : List (OrderExchange E S)}
    {r : Except Err Unit} {c : OrderPool E S} (h : K.RetryOutcome fail wait tr r c)
    (hrow : x.after.row = x.before.row)
    (hwallet : x.after.reset = x.before.reset) : K.RetryOutcome fail wait (x :: tr) r c where
  row y hy := by
    rcases List.mem_cons.1 hy with rfl | hy
    · exact .inl hrow
    · exact h.row y hy
  wallet y hy := by
    rcases List.mem_cons.1 hy with rfl | hy
    · exact .inl hwallet
    · refine (h.wallet y hy).imp_right fun ⟨hfail, order, ⟨z, hz, hreads⟩, hreset⟩ => ?_
      exact ⟨hfail, order, ⟨z, List.mem_cons_of_mem _ hz, hreads⟩, hreset⟩
  throws e he := by
    refine (h.throws e he).imp (fun hrows y hy => ?_) fun ⟨request, s, hmem⟩ => ?_
    · rcases List.mem_cons.1 hy with rfl | hy
      · exact hrow
      · exact hrows y hy
    · exact ⟨request, s, List.mem_cons_of_mem _ hmem⟩
  returns hr := by
    obtain ⟨y, hy, hmoves, hmade⟩ := h.returns hr
    refine ⟨y, List.mem_cons_of_mem _ hy, hmoves, hmade.imp_left fun ⟨request, s, hmem⟩ => ?_⟩
    exact ⟨request, s, List.mem_cons_of_mem _ hmem⟩

/-- A call that has thrown before it did anything. -/
theorem OrderKind.RetryOutcome.nothing {e : Err} {c : OrderPool E S} :
    K.RetryOutcome fail wait [] (.error e) c where
  row _ hx := absurd hx List.not_mem_nil
  wallet _ hx := absurd hx List.not_mem_nil
  throws _ _ := .inl fun _ hx => absurd hx List.not_mem_nil
  returns h := (nomatch h)

/-- The wallet is asked to set the transaction of the order back. -/
theorem OrderKind.RetryOutcome.afterReset {x y : OrderExchange E S} {order : E}
    {tr : List (OrderExchange E S)} {r : Except Err Unit} {c : OrderPool E S}
    (h : K.RetryOutcome K.incomingFail wait tr r c)
    (hreads : OrderExchange.Reads K.incomingFail order y) (hrow : x.after.row = x.before.row)
    (hreset : x.after.reset = x.before.reset ∨
      x.after.reset = (K.incoming, K.inTx order) :: x.before.reset) :
    K.RetryOutcome K.incomingFail wait (y :: x :: tr) r c := by
  have hsame : y.after = y.before := by
    obtain ⟨s, rfl, -⟩ := hreads
    rfl
  have hrest : ∀ z ∈ tr, z ∈ y :: x :: tr :=
    fun z hz => List.mem_cons_of_mem _ (List.mem_cons_of_mem _ hz)
  refine ⟨?_, ?_, ?_, ?_⟩
  · intro z hz
    rcases List.mem_cons.1 hz with rfl | hz
    · exact .inl (by rw [hsame])
    rcases List.mem_cons.1 hz with rfl | hz
    · exact .inl hrow
    · exact h.row z hz
  · intro z hz
    rcases List.mem_cons.1 hz with rfl | hz
    · exact .inl (by rw [hsame])
    rcases List.mem_cons.1 hz with rfl | hz
    · exact hreset.imp_right fun hreset => ⟨rfl, order, ⟨y, List.mem_cons_self, hreads⟩, hreset⟩
    · refine (h.wallet z hz).imp_right fun ⟨_, order, ⟨w, hw, hreads⟩, hreset⟩ => ?_
      exact ⟨rfl, order, ⟨w, hrest w hw, hreads⟩, hreset⟩
  · intro e he
    refine (h.throws e he).imp (fun hrows z hz => ?_) fun ⟨request, s, hmem⟩ => ?_
    · rcases List.mem_cons.1 hz with rfl | hz
      · rw [hsame]
      rcases List.mem_cons.1 hz with rfl | hz
      · exact hrow
      · exact hrows z hz
    · exact ⟨request, s, hrest _ hmem⟩
  · intro hr
    obtain ⟨z, hz, hmoves, hmade⟩ := h.returns hr
    refine ⟨z, hrest z hz, hmoves, hmade.imp_left fun ⟨request, s, hmem⟩ => ?_⟩
    exact ⟨request, s, hrest _ hmem⟩

/-! ## The steps of a retry -/

variable [DecidableEq S] {o : OrderChoice} {s t : OrderStore E}

theorem answer_findOneByForce {r : Except Err E}
    (h : (OrderOp.findOneByForce (some fail) : OrderOp E S).answer env o s = some (r, t)) :
    t = s ∧ ((∃ e, r = .error e) ∨ r = .ok s.row ∧ OrderEntity.state s.row = fail) := by
  cases o <;> simp only [OrderOp.answer, reduceCtorEq] at h
  case fails e =>
    cases h
    exact ⟨rfl, .inl ⟨e, rfl⟩⟩
  case done =>
    split at h <;> cases h
    · next hstate => exact ⟨rfl, .inr ⟨rfl, by simpa using hstate⟩⟩
    · exact ⟨rfl, .inl ⟨_, rfl⟩⟩

theorem answer_update {r : Except Err Nat}
    (h : (OrderOp.update fail wait : OrderOp E S).answer env o s = some (r, t)) :
    (t = s ∧ ((∃ e, r = .error e) ∨ r = .ok 0)) ∨
      (r = .ok 1 ∧ OrderEntity.state s.row = fail ∧
        t = { s with row := OrderEntity.setState wait s.row }) := by
  cases o <;> simp only [OrderOp.answer, reduceCtorEq] at h
  case fails e =>
    cases h
    exact .inl ⟨rfl, .inl ⟨e, rfl⟩⟩
  case done =>
    split at h <;> cases h
    · next hstate => exact .inr ⟨rfl, hstate, rfl⟩
    · exact .inl ⟨rfl, .inr rfl⟩

theorem answer_ipcReply {request : IpcRequest} {r : Except Err Bool}
    (h : (OrderOp.ipcReply request : OrderOp E S).answer env o s = some (r, t)) :
    t = s ∧ (r = .ok true → request ∈ s.ipcReplies) := by
  cases o <;> simp only [OrderOp.answer, reduceCtorEq] at h
  case fails e =>
    cases h
    refine ⟨rfl, fun hr => ?_⟩
    cases hr
  case flag b =>
    split at h <;> cases h
    next hsent =>
    refine ⟨rfl, fun hr => ?_⟩
    cases hr
    simpa using hsent

omit [DecidableEq S] in
theorem resetTrans_cases {side : ChainSide} {txId : JsString} {b : Bool} {r : Except Err Bool}
    (h : s.resetTrans side txId b = some (r, t)) :
    r = .ok b ∧ t.row = s.row ∧ (t.reset = s.reset ∨ t.reset = (side, txId) :: s.reset) := by
  cases h
  refine ⟨rfl, ?_⟩
  split
  · exact ⟨rfl, .inr rfl⟩
  · exact ⟨rfl, .inl rfl⟩

theorem answer_updateExternalTransState {chainName : Option ExternalChainName} {txId : JsString}
    {r : Except Err Bool}
    (h : (OrderOp.updateExternalTransState chainName txId : OrderOp E S).answer env o s =
      some (r, t)) :
    t.row = s.row ∧ (t.reset = s.reset ∨ t.reset = (.external, txId) :: s.reset) := by
  cases o <;> simp only [OrderOp.answer, reduceCtorEq] at h
  case fails e =>
    cases h
    exact ⟨rfl, .inl rfl⟩
  case flag b => exact (resetTrans_cases h).2

theorem answer_updateInternalTransState {chainName txId : JsString} {r : Except Err Bool}
    (h : (OrderOp.updateInternalTransState chainName txId : OrderOp E S).answer env o s =
      some (r, t)) :
    t.row = s.row ∧ (t.reset = s.reset ∨ t.reset = (.internal, txId) :: s.reset) := by
  cases o <;> simp only [OrderOp.answer, reduceCtorEq] at h
  case fails e =>
    cases h
    exact ⟨rfl, .inl rfl⟩
  case flag b => exact (resetTrans_cases h).2

/-! ## A call and its requests -/

variable {c c' : OrderPool E S} {tr : List (OrderExchange E S)} {x : OrderPos E}

variable (K env) in
/-- The functions of the pool, and a call at the position `x`. -/
abbrev OrderKind.CallAt (x : OrderPos E) (c : OrderPool E S) : Prop :=
  (orderMoves K env).HoldsWith (K.Requests env c.store) (.runs x) c

/-- An object stays in the map or is counted, whatever the others do after an answer. -/
theorem OrderKind.CallAt.exchange {ex : OrderExchange E S} {y : OrderPos E}
    (hmgr : K.MgrSafe env mgr) (hc : K.CallAt env x c) (hwait : ∀ s, OrderWait K env x s ex.op y)
    (hex : (mgr.program env).Exchanges c ex c') :
    (∀ request ∈ ex.before.ipcReplies, ex.before.LiveSince request.removed) ∧
      ex.after.Counts c'.store ∧ ∃ y, K.CallAt env y c' := by
  obtain ⟨S, hS, hs⟩ := hc
  have hwaits : (orderMoves K env).HoldsWith (K.Requests env c.store) (.waits y ex.op) c :=
    ⟨S, hS, hs.wait (hwait c.store)⟩
  obtain ⟨c₁, ls, hstore, ⟨S₁, -, hs₁⟩, ⟨S₂, hS₂, hs₂⟩, hrun, S₃, hS₃, hs₃⟩ :=
    HoldsWith.exchange requests_invariant hmgr.starts hwaits hex
  have hafter : (orderMoves K env).HoldsWith (K.Requests env ex.after)
      (.has y ex.op ex.reply) (c₁.withStore ex.after) := ⟨S₂, hS₂, hs₂.rebase⟩
  obtain ⟨_, -, hs₄⟩ :=
    HoldsWith.run requests_invariant hmgr.starts (fun _ h => by cases h) hafter hrun
  exact ⟨hstore ▸ hs₁.replies, hs₄.counts, _, S₃, hS₃,
    hs₃.rebase.stay (.refl _) (List.Subset.refl _) rfl id⟩

omit [DecidableEq S] in
theorem OrderKind.CallAt.move {y : OrderPos E} {t : OrderStore E} (hc : K.CallAt env x c)
    (hmove : OrderMove K env x c.store y t) : K.CallAt env y (c.withStore t) := by
  obtain ⟨R, hR, hs⟩ := hc
  exact ⟨R, hR, (hs.move hmove).rebase⟩

/-- A request is answered, with `true` only after there has been an object for it. -/
theorem OrderKind.CallAt.request {request : IpcRequest} {a : Except Err Bool}
    {before after : OrderStore E} (hmgr : K.MgrSafe env mgr) (hc : K.CallAt env x c)
    (hex : (mgr.program env).Exchanges c ⟨.ipcReply request, before, a, after⟩ c') :
    after = before ∧ (a = .ok true → c'.store.LiveSince request.removed) := by
  obtain ⟨hreplies, hcounts, -⟩ := hc.exchange hmgr (fun _ => .silent rfl) hex
  obtain ⟨o, hans⟩ := hex.answered
  obtain ⟨hsame, htrue⟩ := answer_ipcReply hans
  subst hsame
  exact ⟨rfl, fun ha => (hreplies request (htrue ha)).later hcounts⟩

/-- The request for an object, its answer, and the object then. -/
theorem createOrderObj_outcome {r : Except Err Unit} (hmgr : K.MgrSafe env mgr)
    (hc : K.CallAt env x c)
    (h : (mgr.program env).Alongside (createOrderObj : OrderAsync E S Unit) c tr r c') :
    ∃ request s a, tr = [⟨.ipcReply request, s, a, s⟩] ∧ (∀ e, r = .error e → a = .error e) ∧
      (r = .ok () → ∃ b, a = .ok b ∧ (b = true → c'.store.LiveSince c.store.removed)) := by
  rw [createOrderObj, alongside_store_bind, alongside_update_bind] at h
  have hsent := hc.move (.send c.store.ipcSent)
  rcases alongside_bind.1 h with ⟨e, rfl, hcall⟩ | ⟨b, c₁, tr₁, tr₂, rfl, hcall, hrest⟩
  · obtain ⟨before, after, rfl, hex⟩ := alongside_call.1 hcall
    obtain ⟨rfl, -⟩ := hsent.request hmgr hex
    exact ⟨_, after, .error e, rfl, fun _ he => by cases he; rfl, fun hr => (nomatch hr)⟩
  · obtain ⟨before, after, rfl, hex⟩ := alongside_call.1 hcall
    obtain ⟨rfl, hlive⟩ := hsent.request hmgr hex
    obtain ⟨rfl, rfl, rfl⟩ := alongside_pure.1 hrest
    refine ⟨_, after, .ok b, rfl, fun _ he => (nomatch he), fun _ => ⟨b, rfl, ?_⟩⟩
    intro hb
    exact hlive (congrArg _ hb)

/-- From the update of the row on. -/
theorem moveRow_outcome {r : Except Err Unit} {e : Err} (hmgr : K.MgrSafe env mgr)
    (hc : K.CallAt env x c) (hwait : ∀ s, OrderWait K env x s (.update fail wait) x.aside)
    (h : (mgr.program env).Alongside (do
      let affected : Nat ← call (OrderOp.update fail wait : OrderOp E S)
      throwIf (affected = 0) e
      createOrderObj) c tr r c') : K.RetryOutcome fail wait tr r c' := by
  rcases alongside_bind.1 h with ⟨e', rfl, hcall⟩ | ⟨n, c₁, tr₁, tr₂, rfl, hcall, hrest⟩
  · obtain ⟨before, after, rfl, hex⟩ := alongside_call.1 hcall
    obtain ⟨o, hans⟩ := hex.answered
    obtain ⟨rfl, -⟩ | ⟨hr, -⟩ := answer_update hans
    · refine ⟨by simp, by simp, fun _ _ => .inl (by simp), fun hr => (nomatch hr)⟩
    · cases hr
  · obtain ⟨before, after, rfl, hex⟩ := alongside_call.1 hcall
    obtain ⟨-, hcounts, y, hc₁⟩ := hc.exchange hmgr hwait hex
    obtain ⟨o, hans⟩ := hex.answered
    rcases answer_update hans with ⟨rfl, hr⟩ | ⟨hr, hstate, hafter⟩
    · -- no row was in the state
      obtain ⟨_, hr⟩ | hr := hr <;> cases hr
      rcases alongside_throwIf_bind.1 hrest with ⟨-, rfl, rfl, rfl⟩ | ⟨hne, -⟩
      · refine ⟨by simp, by simp, fun _ _ => .inl (by simp), fun hr => (nomatch hr)⟩
      · exact absurd rfl hne
    · cases hr
      rcases alongside_throwIf_bind.1 hrest with ⟨heq, -⟩ | ⟨-, hrest⟩
      · cases heq
      · -- the row has been moved
        obtain ⟨request, s, a, rfl, herror, hok⟩ := createOrderObj_outcome hmgr hc₁ hrest
        have hmoves : OrderExchange.MovesRow fail wait (E := E)
            ⟨.update fail wait, before, .ok 1, after⟩ := ⟨hstate, hafter⟩
        refine ⟨?_, ?_, fun e he => .inr ?_, fun hr => ?_⟩
        · simp [hmoves]
        · simp [hafter]
        · obtain rfl := herror e he
          exact ⟨request, s, by simp⟩
        · refine ⟨_, List.mem_append_left _ List.mem_cons_self, hmoves, ?_⟩
          obtain ⟨b, rfl, hlive⟩ := hok hr
          cases b with
          | false => exact .inl ⟨request, s, by simp⟩
          | true => exact .inr ((hlive rfl).mono hcounts.removed)

/-- The call that sets the incoming transaction of an order back. -/
def OrderKind.ResetsIncoming (K : OrderKind E S) (op : OrderOp E S) (order : E) : Prop :=
  op.silent K.outgoing = true ∧ ∀ (env : OrderEnv) o (s : OrderStore E) r t,
    op.answer env o s = some (r, t) → t.row = s.row ∧
      (t.reset = s.reset ∨ t.reset = (K.incoming, K.inTx order) :: s.reset)

theorem resetsIncoming_external {order : E} {chainName : Option ExternalChainName}
    (h : K.incoming = .external) :
    K.ResetsIncoming (.updateExternalTransState chainName (K.inTx order)) order := by
  refine ⟨rfl, fun env o s r t hans => ?_⟩
  rw [h]
  exact answer_updateExternalTransState hans

theorem resetsIncoming_internal {order : E} {chainName : JsString} (h : K.incoming = .internal) :
    K.ResetsIncoming (.updateInternalTransState chainName (K.inTx order)) order := by
  refine ⟨rfl, fun env o s r t hans => ?_⟩
  rw [h]
  exact answer_updateInternalTransState hans

/-- A retry of the incoming transaction. -/
theorem retryIncoming_outcome (op : E → OrderOp E S) (refused : (order : E) → (op order).Ans → Prop)
    [∀ order a, Decidable (refused order a)] {e e' : E → Err} {r : Except Err Unit}
    (hmgr : K.MgrSafe env mgr) (hop : ∀ order, K.ResetsIncoming (op order) order)
    (hc : K.CallAt env x c)
    (h : (mgr.program env).Alongside (do
      let order : E ← call (OrderOp.findOneByForce (some K.incomingFail) : OrderOp E S)
      let updated ← call (op order)
      throwIf (refused order updated) (e order)
      let affected : Nat ← call (OrderOp.update K.incomingFail K.incomingWait : OrderOp E S)
      throwIf (affected = 0) (e' order)
      createOrderObj) c tr r c') :
    K.RetryOutcome K.incomingFail K.incomingWait tr r c' := by
  rcases alongside_bind.1 h with ⟨_, rfl, hcall⟩ | ⟨order, c₁, tr₁, tr₂, rfl, hcall, hrest⟩
  · obtain ⟨before, after, rfl, hex⟩ := alongside_call.1 hcall
    obtain ⟨o, hans⟩ := hex.answered
    obtain ⟨rfl, -⟩ := answer_findOneByForce hans
    exact .cons .nothing rfl rfl
  obtain ⟨before, after, rfl, hex⟩ := alongside_call.1 hcall
  obtain ⟨-, -, y, hc₁⟩ := hc.exchange hmgr (fun _ => .silent rfl) hex
  obtain ⟨o, hans⟩ := hex.answered
  obtain ⟨hsame, ⟨_, hr⟩ | ⟨horder, hstate⟩⟩ := answer_findOneByForce hans
  · cases hr
  have hreads : OrderExchange.Reads K.incomingFail order
      ⟨.findOneByForce (some K.incomingFail), before, .ok order, after⟩ := by
    subst hsame
    cases horder
    exact ⟨after, rfl, rfl, hstate⟩
  rcases alongside_bind.1 hrest with ⟨_, rfl, hcall⟩ | ⟨updated, c₂, tr₁, tr₂, rfl, hcall, hnext⟩
  · obtain ⟨before, after, rfl, hex⟩ := alongside_call.1 hcall
    obtain ⟨o, hans⟩ := hex.answered
    obtain ⟨hrow, hreset⟩ := (hop order).2 _ _ _ _ _ hans
    exact .afterReset .nothing hreads hrow hreset
  obtain ⟨before, after, rfl, hex⟩ := alongside_call.1 hcall
  obtain ⟨-, -, z, hc₂⟩ := hc₁.exchange hmgr (fun _ => .silent (hop order).1) hex
  obtain ⟨o, hans⟩ := hex.answered
  obtain ⟨hrow, hreset⟩ := (hop order).2 _ _ _ _ _ hans
  rcases alongside_throwIf_bind.1 hnext with ⟨-, rfl, rfl, rfl⟩ | ⟨-, hrest⟩
  · exact .afterReset .nothing hreads hrow hreset
  · exact .afterReset (moveRow_outcome hmgr hc₂ (fun _ => .retryIncoming) hrest) hreads hrow hreset

end

/-! ## The four retries -/

section

variable {env : OrderEnv}

variable {E S : Type} [OrderEntity E S] [DecidableEq S] in
/-- A pool without open requests, and a call of a function. -/
theorem callAt_of_run {K : OrderKind E S} {mgr : OrderMgr E S} (hmgr : K.MgrSafe env mgr)
    {s : OrderStore E} {ls : List (Label OrderEvt OrderChoice)} {c : OrderPool E S}
    (hrequests : s.ipcRequests = []) (hreplies : s.ipcReplies = [])
    (hrun : (mgr.program env).system.run ⟨s, []⟩ ls = some c) :
    K.CallAt env { act := .plain } c := by
  have hstart : K.Requests env s s 0 := by
    refine ⟨.refl s, ?_, ?_, fun _ hspot => absurd hspot (Multiset.notMem_zero _)⟩
    · simp [hrequests]
    · simp [hreplies]
  have htrue : (mgr.program env).system.Meets (Moves.Allows fun _ _ _ => True) ⟨s, []⟩ ls :=
    (System.meets_true _ _).mono fun _ _ _ _ _ => trivial
  obtain ⟨S, hS, hs⟩ := Moves.sound requests_invariant hmgr.starts (.idle hstart) htrue hrun
  have hpos : RequestPos c.store { act := .plain } :=
    ⟨fun _ hx => (nomatch hx), fun _ _ hx => (nomatch hx), fun _ hx => (nomatch hx)⟩
  exact ⟨S, hS, hs.rebase.start hpos⟩

/-- Every retry, alongside whatever the order worker and other retries do, from any pool that a run
without earlier requests leads to. -/
theorem retry_outcome (env : OrderEnv) :
    (∀ (s : OrderStore RechargeOrder) (ls : List (Label OrderEvt OrderChoice))
      (c c' : OrderPool RechargeOrder RECHARGE_ORDER_STATE_ID)
      (tr : List (OrderExchange RechargeOrder RECHARGE_ORDER_STATE_ID)) (r : Except Err Unit),
      s.ipcRequests = [] → s.ipcReplies = [] →
      (RechargeOrder.program env).system.run ⟨s, []⟩ ls = some c →
        ((RechargeOrder.program env).Alongside (RechargeOrder.retryExternalOnChain env) c tr r c' →
          rechargeKind.RetryOutcome .EXTERNAL_ON_CHAIN_FAIL .EXTERNAL_WAIT_ON_CHAIN tr r c') ∧
        ((RechargeOrder.program env).Alongside RechargeOrder.retryInternalOnChain c tr r c' →
          rechargeKind.RetryOutcome .INTERNAL_ON_CHAIN_FAIL .INTERNAL_WAIT_ON_CHAIN tr r c')) ∧
    ∀ (s : OrderStore RedemptionOrder) (ls : List (Label OrderEvt OrderChoice))
      (c c' : OrderPool RedemptionOrder REDEMPTION_ORDER_STATE_ID)
      (tr : List (OrderExchange RedemptionOrder REDEMPTION_ORDER_STATE_ID)) (r : Except Err Unit),
      s.ipcRequests = [] → s.ipcReplies = [] →
      (RedemptionOrder.program env).system.run ⟨s, []⟩ ls = some c →
        ((RedemptionOrder.program env).Alongside (RedemptionOrder.retryInternalOnChain env) c tr r
            c' →
          redemptionKind.RetryOutcome .INTERNAL_ON_CHAIN_FAIL .INTERNAL_WAIT_ON_CHAIN tr r c') ∧
        ((RedemptionOrder.program env).Alongside RedemptionOrder.retryExternalOnChain c tr r c' →
          redemptionKind.RetryOutcome .EXTERNAL_ON_CHAIN_FAIL .EXTERNAL_WAIT_ON_CHAIN tr r c') := by
  constructor
  · intro s ls c c' tr r hrequests hreplies hrun
    have hmgr : rechargeKind.MgrSafe env _ := RechargeOrder.kind_mgr
    have hc := callAt_of_run hmgr hrequests hreplies hrun
    constructor
    · intro hcall
      exact retryIncoming_outcome
        (fun order : RechargeOrder => .updateExternalTransState order.walletChain order.walletTxId)
        (fun _ updated => updated = false) hmgr (fun _ => resetsIncoming_external rfl) hc hcall
    · intro hcall
      exact moveRow_outcome hmgr hc (fun _ => .retryOutgoing) hcall
  · intro s ls c c' tr r hrequests hreplies hrun
    have hmgr : redemptionKind.MgrSafe env _ := RedemptionOrder.kind_mgr
    have hc := callAt_of_run hmgr hrequests hreplies hrun
    constructor
    · intro hcall
      exact retryIncoming_outcome
        (fun order : RedemptionOrder =>
          .updateInternalTransState order.internalChain order.redemptionTxId)
        (fun _ updated => updated = false) hmgr (fun _ => resetsIncoming_internal rfl) hc hcall
    · intro hcall
      exact moveRow_outcome hmgr hc (fun _ => .retryOutgoing) hcall

end

namespace Sample

open Program

/-- The deposit of an issue fails. -/
def failDeposit : List (Label OrderEvt OrderChoice) :=
  .event .setOrderPending :: awaits 0 .done 3 ++
    .event (.onChain ⟨.external, false, js "deposit"⟩) :: awaits 0 .done 2

/-- An answer to a call, with nothing else going on. -/
def alone (o : OrderChoice) : List (Label OrderEvt OrderChoice) × OrderChoice ×
    List (Label OrderEvt OrderChoice) := ([], o, [])

def timeout : Err := .error (js "timeout")

/-- The order worker serves the request before it answers. -/
def serveRequest : List (Label OrderEvt OrderChoice) :=
  .event (.serveIpc ⟨0, 1⟩) :: awaits 0 .done 4

/-- The failed deposit is in the row, and its object still in the map. -/
def closingDeposit : List (Label OrderEvt OrderChoice) :=
  .event .setOrderPending :: awaits 0 .done 3 ++
    .event (.onChain ⟨.external, false, js "deposit"⟩) :: awaits 0 .done 1 ++ [.answer 0 .done]

/-- The request has been answered like this. -/
def repliesWith (b : Bool) : OrderExchange RechargeOrder RECHARGE_ORDER_STATE_ID → Bool
  | ⟨.ipcReply _, _, .ok b', _⟩ => b' == b
  | _ => false

theorem ipcReply_of_repliesWith {b : Bool}
    {tr : List (OrderExchange RechargeOrder RECHARGE_ORDER_STATE_ID)}
    (h : tr.any (repliesWith b) = true) :
    ∃ request s t, ⟨.ipcReply request, s, .ok b, t⟩ ∈ tr := by
  obtain ⟨x, hx, hreply⟩ := List.any_eq_true.1 h
  unfold repliesWith at hreply
  split at hreply
  · next request s b' t =>
    obtain rfl := beq_iff_eq.1 hreply
    exact ⟨request, s, t, hx⟩
  · cases hreply

/-- A retry of the deposit is replayed after a run, to see that it passes a test. -/
theorem exists_retry (ls : List (Label OrderEvt OrderChoice))
    (os : List (List (Label OrderEvt OrderChoice) × OrderChoice ×
      List (Label OrderEvt OrderChoice)))
    (test : List (OrderExchange RechargeOrder RECHARGE_ORDER_STATE_ID) → Except Err Unit →
      OrderPool RechargeOrder RECHARGE_ORDER_STATE_ID → Bool)
    (h : (((RechargeOrder.program orderEnv).system.run ⟨{ row := rechargeOrder .ISSUE }, []⟩
      ls).bind ((RechargeOrder.program orderEnv).callReplay
        (RechargeOrder.retryExternalOnChain orderEnv) os)).any
          (fun x => test x.1 x.2.1 x.2.2) = true) :
    ∃ c tr r c', (RechargeOrder.program orderEnv).system.run
        ⟨{ row := rechargeOrder .ISSUE }, []⟩ ls = some c ∧
      (RechargeOrder.program orderEnv).Alongside (RechargeOrder.retryExternalOnChain orderEnv) c tr
        r c' ∧ test tr r c' = true :=
  exists_alongside _ _ _ ls os test h

/-- A retry returns when its request is answered with `false`, and when it is answered with `true`
for the object of the failed deposit. -/
theorem retry_without_object (answer : Bool) :
    ∃ ls c tr c', (RechargeOrder.program orderEnv).system.run
        ⟨{ row := rechargeOrder .ISSUE }, []⟩ ls = some c ∧
      (RechargeOrder.program orderEnv).Alongside (RechargeOrder.retryExternalOnChain orderEnv) c tr
        (.ok ()) c' ∧ tr.any (repliesWith answer) = true ∧ c'.store.processing.isSome = false := by
  obtain ⟨ls, os, hos⟩ : ∃ ls os, (((RechargeOrder.program orderEnv).system.run
      ⟨{ row := rechargeOrder .ISSUE }, []⟩ ls).bind ((RechargeOrder.program orderEnv).callReplay
        (RechargeOrder.retryExternalOnChain orderEnv) os)).any (fun x =>
          x.2.1.toOption.isSome && x.1.any (repliesWith answer) &&
            !x.2.2.store.processing.isSome) = true := by
    cases answer with
    | false =>
      exact ⟨failDeposit, [alone .done, alone (.flag true), alone .done, alone (.flag false)],
        by decide +kernel⟩
    | true =>
      exact ⟨closingDeposit, [alone .done, alone (.flag true), alone .done,
        ([.event (.serveIpc ⟨0, 0⟩)], .flag true, [.resume 0])], by decide +kernel⟩
  obtain ⟨c, tr, r, c', hrun, hcall, htest⟩ := exists_retry ls os
    (fun tr r c' => r.toOption.isSome && tr.any (repliesWith answer) &&
      !c'.store.processing.isSome) hos
  cases r with
  | error e => cases htest
  | ok a =>
    rw [Bool.and_eq_true, Bool.and_eq_true, Bool.not_eq_true'] at htest
    exact ⟨ls, c, tr, c', hrun, hcall, htest.1.2, htest.2⟩

end Sample

/-- A retry that gets to its end has moved the row, and its object is in the map. -/
theorem retry_outcome_sample :
    ∃ c tr c', (RechargeOrder.program Sample.orderEnv).system.run
        ⟨{ row := Sample.rechargeOrder .ISSUE }, []⟩ Sample.failDeposit = some c ∧
      (RechargeOrder.program Sample.orderEnv).Alongside
        (RechargeOrder.retryExternalOnChain Sample.orderEnv) c tr (.ok ()) c' ∧
      c'.store.row.state = .EXTERNAL_WAIT_ON_CHAIN ∧ c'.store.processing = some 1 ∧
      rechargeKind.RetryOutcome .EXTERNAL_ON_CHAIN_FAIL .EXTERNAL_WAIT_ON_CHAIN tr (.ok ()) c' := by
  obtain ⟨c, tr, r, c', hrun, hcall, htest⟩ := Sample.exists_retry Sample.failDeposit
    [Sample.alone .done, Sample.alone (.flag true), Sample.alone .done,
      (Sample.serveRequest, .flag true, [])]
    (fun _ r c' => r.toOption.isSome &&
      decide (c'.store.row.state = .EXTERNAL_WAIT_ON_CHAIN ∧ c'.store.processing = some 1))
    (by decide +kernel)
  cases r with
  | error e => cases htest
  | ok a =>
    obtain ⟨-, hstate, hlive⟩ := by simpa using htest
    exact ⟨c, tr, c', hrun, hcall, hstate, hlive,
      ((retry_outcome Sample.orderEnv).1 _ _ c c' tr _ rfl rfl hrun).1 hcall⟩

/-- A retry is not all or nothing. It can throw after the wallet has set the transaction back, or
after the row has been moved. It also returns without an object in the map: the order worker may
have answered the request with `false`, or with `true` for an object that was being closed. -/
theorem retry_not_allOrNothing :
    (¬ ∀ (env : OrderEnv) (order : RechargeOrder) (ls : List (Label OrderEvt OrderChoice))
      (c c' : OrderPool RechargeOrder RECHARGE_ORDER_STATE_ID)
      (tr : List (OrderExchange RechargeOrder RECHARGE_ORDER_STATE_ID)) (e : Err), order.New →
      (RechargeOrder.program env).system.run ⟨{ row := order }, []⟩ ls = some c →
      (RechargeOrder.program env).Alongside (RechargeOrder.retryExternalOnChain env) c tr (.error e)
        c' → ∀ x ∈ tr, x.after.reset = x.before.reset) ∧
    (¬ ∀ (env : OrderEnv) (order : RechargeOrder) (ls : List (Label OrderEvt OrderChoice))
      (c c' : OrderPool RechargeOrder RECHARGE_ORDER_STATE_ID)
      (tr : List (OrderExchange RechargeOrder RECHARGE_ORDER_STATE_ID)) (e : Err), order.New →
      (RechargeOrder.program env).system.run ⟨{ row := order }, []⟩ ls = some c →
      (RechargeOrder.program env).Alongside (RechargeOrder.retryExternalOnChain env) c tr (.error e)
        c' → ∀ x ∈ tr, x.after.row = x.before.row) ∧
    ∀ answer : Bool, ¬ ∀ (env : OrderEnv) (order : RechargeOrder)
      (ls : List (Label OrderEvt OrderChoice))
      (c c' : OrderPool RechargeOrder RECHARGE_ORDER_STATE_ID)
      (tr : List (OrderExchange RechargeOrder RECHARGE_ORDER_STATE_ID)), order.New →
      (RechargeOrder.program env).system.run ⟨{ row := order }, []⟩ ls = some c →
      (RechargeOrder.program env).Alongside (RechargeOrder.retryExternalOnChain env) c tr (.ok ())
        c' → (∃ request s t, ⟨.ipcReply request, s, .ok answer, t⟩ ∈ tr) →
      c'.store.processing.isSome = true := by
  refine ⟨fun h => ?_, fun h => ?_, fun answer h => ?_⟩
  · obtain ⟨c, tr, r, c', hrun, hcall, htest⟩ := Sample.exists_retry Sample.failDeposit
      [Sample.alone .done, Sample.alone (.flag true), Sample.alone (.fails Sample.timeout)]
      (fun tr r _ => !r.toOption.isSome && tr.any fun x => decide (x.after.reset ≠ x.before.reset))
      (by decide +kernel)
    cases r with
    | ok a => cases htest
    | error e =>
      obtain ⟨-, x, hx, hreset⟩ := by simpa using htest
      exact hreset (h _ _ _ c c' tr e ⟨rfl, rfl⟩ hrun hcall x hx)
  · obtain ⟨c, tr, r, c', hrun, hcall, htest⟩ := Sample.exists_retry Sample.failDeposit
      [Sample.alone .done, Sample.alone (.flag true), Sample.alone .done,
        Sample.alone (.fails Sample.timeout)]
      (fun tr r _ => !r.toOption.isSome &&
        tr.any fun x => decide (x.after.row.state ≠ x.before.row.state))
      (by decide +kernel)
    cases r with
    | ok a => cases htest
    | error e =>
      obtain ⟨-, x, hx, hstate⟩ := by simpa using htest
      exact hstate (congrArg _ (h _ _ _ c c' tr e ⟨rfl, rfl⟩ hrun hcall x hx))
  · obtain ⟨ls, c, tr, c', hrun, hcall, hreplies, hnot⟩ := Sample.retry_without_object answer
    have hlive := h _ _ ls c c' tr ⟨rfl, rfl⟩ hrun hcall (Sample.ipcReply_of_repliesWith hreplies)
    rw [hnot] at hlive
    cases hlive

end CotServer
