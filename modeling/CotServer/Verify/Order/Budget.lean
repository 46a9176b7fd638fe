import CotServer.Verify.Order.Sequential

/-!
# The retry budget of an order

Every accepted failure of an outgoing transaction is counted in the object of the order. As long as
the count is within the limit of the kind, the object waits for another transaction; the failure
beyond it ends the order. `Evolves` is what all functions but the handler of such a failure do, and
`Fails` is what that handler does.
-/

namespace CotServer

open Async

/-- A kind of order with its manager, and the time until the next retry. -/
structure RetryKind (E S : Type) [OrderEntity E S] extends OrderKind E S where
  mgr : OrderEnv → OrderMgr E S
  retryInterval : OrderEnv → Nat

/-- How many failures the object has accepted. -/
def OrderStore.failures {E : Type} (s : OrderStore E) (ref : Ref) : Nat :=
  s.accepted.countP fun p => p.1 = ref

variable {E S : Type} [OrderEntity E S]

namespace RetryKind

variable (K : RetryKind E S) (env : OrderEnv)

/-- The limit is used up. -/
def Exhausted (obj : OrderObj E) : Prop := K.retryMaxNum env < obj.retryTxNum

/-- No failure is accepted, and no order that has used up its limit changes its state. -/
structure Evolves (s t : OrderStore E) : Prop where
  accepted : t.accepted = s.accepted
  object : ∀ (ref : Ref) (obj : OrderObj E), s.heap[ref]? = some obj →
    ∃ obj' : OrderObj E, t.heap[ref]? = some obj' ∧
      obj'.retryTxNum = obj.retryTxNum ∧ (K.Exhausted env obj → obj'.curStateId = obj.curStateId)
  new : ∀ (ref : Ref) (obj : OrderObj E), s.heap.length ≤ ref → t.heap[ref]? = some obj →
    obj.retryTxNum = 0

/-- The object at the reference, if there is one, has not used up its limit. -/
def Within (ref : Ref) (s : OrderStore E) : Prop :=
  ∀ obj, s.heap[ref]? = some obj → ¬ K.Exhausted env obj

/-- A function of an object that has not used up its limit. -/
def Serves (ref : Ref) (s t : OrderStore E) : Prop := K.Within env ref s → K.Evolves env s t

/-- What the object is after its failure number `k`. -/
structure After (k now : Nat) (obj : OrderObj E) : Prop where
  retryTxNum : obj.retryTxNum = k
  wait : k ≤ K.retryMaxNum env → obj.curStateId = K.outgoingWait ∧
    K.outTx obj.entity = OrderEntity.entityId obj.entity ∧
      obj.retryTxStamp = some (now + K.retryInterval env)
  fail : K.retryMaxNum env < k → obj.curStateId = K.outgoingFail

/-- The object accepts a failure. -/
structure Fails (ref : Ref) (txId : JsString) (s t : OrderStore E) : Prop where
  accepted : t.accepted = (ref, txId) :: s.accepted
  length : t.heap.length = s.heap.length
  object : ∃ obj obj', s.heap[ref]? = some obj ∧ ¬ K.Exhausted env obj ∧
    t.heap[ref]? = some obj' ∧ K.After env (obj.retryTxNum + 1) s.now obj'
  other : ∀ ref', ref' ≠ ref → t.heap[ref']? = s.heap[ref']?

/-- What one function does. -/
def Steps (s t : OrderStore E) : Prop := K.Evolves env s t ∨ ∃ ref txId, K.Fails env ref txId s t

/-- Every object has counted its failures, and at most one of them is beyond the limit. -/
structure InBudget (s : OrderStore E) : Prop where
  known : ∀ p ∈ s.accepted, p.1 < s.heap.length
  counted : ∀ (ref : Ref) (obj : OrderObj E), s.heap[ref]? = some obj → obj.retryTxNum = s.failures ref
  bounded : ∀ (ref : Ref) (obj : OrderObj E), s.heap[ref]? = some obj → K.Exhausted env obj →
    obj.retryTxNum = K.retryMaxNum env + 1 ∧ obj.curStateId = K.outgoingFail

variable {K env} {s t u : OrderStore E} {ref : Ref} {obj : OrderObj E}

theorem Evolves.refl (s : OrderStore E) : K.Evolves env s s where
  accepted := rfl
  object _ obj hobj := ⟨obj, hobj, rfl, fun _ => rfl⟩
  new ref obj hlen hobj := by
    rw [List.getElem?_eq_none hlen] at hobj
    cases hobj

theorem Evolves.length_le (h : K.Evolves env s t) : s.heap.length ≤ t.heap.length := by
  by_contra hlt
  have hlast : t.heap.length < s.heap.length := by omega
  obtain ⟨obj', hobj', _⟩ := h.object _ _ (List.getElem?_eq_getElem hlast)
  rw [List.getElem?_eq_none (Nat.le_refl _)] at hobj'
  cases hobj'

theorem Evolves.trans (h : K.Evolves env s t) (h' : K.Evolves env t u) : K.Evolves env s u where
  accepted := h'.accepted.trans h.accepted
  object ref obj hobj := by
    obtain ⟨obj₁, hobj₁, hnum₁, hstate₁⟩ := h.object ref obj hobj
    obtain ⟨obj₂, hobj₂, hnum₂, hstate₂⟩ := h'.object ref obj₁ hobj₁
    refine ⟨obj₂, hobj₂, hnum₂.trans hnum₁, ?_⟩
    intro hexhausted
    have hexhausted₁ : K.Exhausted env obj₁ := by
      rw [Exhausted, hnum₁]
      exact hexhausted
    exact (hstate₂ hexhausted₁).trans (hstate₁ hexhausted)
  new ref obj hlen hobj := by
    by_cases hold : t.heap.length ≤ ref
    · exact h'.new ref obj hold hobj
    · have hlt : ref < t.heap.length := Nat.lt_of_not_le hold
      have hmid := List.getElem?_eq_getElem hlt
      obtain ⟨obj', hobj', hnum, _⟩ := h'.object ref _ hmid
      rw [hobj] at hobj'
      cases hobj'
      exact hnum.trans (h.new ref _ hlen hmid)

theorem Evolves.of_same (hheap : t.heap = s.heap) (haccepted : t.accepted = s.accepted) :
    K.Evolves env s t where
  accepted := haccepted
  object ref obj hobj := ⟨obj, by rw [hheap, hobj], rfl, fun _ => rfl⟩
  new ref obj hlen hobj := by
    rw [hheap, List.getElem?_eq_none hlen] at hobj
    cases hobj

theorem Evolves.newObj (entity : E) : K.Evolves env s (OrderMgr.newObj entity s) where
  accepted := rfl
  object ref obj hobj := by
    refine ⟨obj, ?_, rfl, fun _ => rfl⟩
    have hlt := (List.getElem?_eq_some_iff.1 hobj).1
    rw [OrderMgr.newObj, List.getElem?_append_left hlt, hobj]
  new ref obj hlen hobj := by
    rw [OrderMgr.newObj, List.getElem?_append_right hlen, List.getElem?_singleton] at hobj
    split at hobj
    · cases hobj
      rfl
    · cases hobj

/-- The object at the reference changes, but not in its count. -/
theorem Evolves.modify {f : OrderObj E → OrderObj E}
    (hnum : ∀ obj, (f obj).retryTxNum = obj.retryTxNum)
    (hstate : ∀ obj, s.heap[ref]? = some obj → K.Exhausted env obj →
      (f obj).curStateId = obj.curStateId) :
    K.Evolves env s { s with heap := s.heap.modify ref f } where
  accepted := rfl
  object ref' obj hobj := by
    by_cases href : ref = ref'
    · subst href
      refine ⟨f obj, ?_, hnum obj, hstate obj hobj⟩
      simp [hobj]
    · refine ⟨obj, ?_, rfl, fun _ => rfl⟩
      simp [List.getElem?_modify_ne, href, hobj]
  new ref' obj hlen hobj := by
    rw [List.getElem?_eq_none (by simpa using hlen)] at hobj
    cases hobj

theorem Within.evolves (h : K.Within env ref s) (hevolves : K.Evolves env s t) :
    K.Within env ref t := by
  intro obj' hobj' hexhausted
  by_cases hlen : s.heap.length ≤ ref
  · have hzero := hevolves.new ref obj' hlen hobj'
    rw [Exhausted, hzero] at hexhausted
    omega
  · have hlt : ref < s.heap.length := Nat.lt_of_not_le hlen
    have hobj := List.getElem?_eq_getElem hlt
    obtain ⟨obj₁, hobj₁, hnum, _⟩ := hevolves.object ref _ hobj
    rw [hobj'] at hobj₁
    cases hobj₁
    apply h _ hobj
    rw [Exhausted, ← hnum]
    exact hexhausted

theorem Serves.trans (s t u : OrderStore E) (h : K.Serves env ref s t)
    (h' : K.Serves env ref t u) : K.Serves env ref s u := by
  intro hwithin
  have hst := h hwithin
  exact hst.trans (h' (hwithin.evolves hst))

/-- A step from a store with the same objects and the same time. -/
theorem Steps.of_same (hheap : t.heap = s.heap) (haccepted : t.accepted = s.accepted)
    (hnow : t.now = s.now) (h : K.Steps env t u) : K.Steps env s u := by
  rcases h with hevolves | ⟨ref, txId, hfails⟩
  · exact .inl ((Evolves.of_same hheap haccepted).trans hevolves)
  · refine .inr ⟨ref, txId, ?_, ?_, ?_, ?_⟩
    · rw [hfails.accepted, haccepted]
    · rw [hfails.length, hheap]
    · rw [← hheap, ← hnow]
      exact hfails.object
    · intro ref' hne
      rw [hfails.other ref' hne, hheap]

/-! ## The invariant -/

theorem InBudget.failures_eq_zero (h : K.InBudget env s) (hlen : s.heap.length ≤ ref) :
    s.failures ref = 0 := by
  rw [OrderStore.failures, List.countP_eq_zero]
  intro p hp heq
  have href : p.1 = ref := by simpa using heq
  have hlt := h.known p hp
  rw [href] at hlt
  exact Nat.not_lt_of_le hlen hlt

theorem InBudget.evolves (h : K.InBudget env s) (hevolves : K.Evolves env s t) :
    K.InBudget env t where
  known p hp := by
    rw [hevolves.accepted] at hp
    exact Nat.lt_of_lt_of_le (h.known p hp) hevolves.length_le
  counted ref obj' hobj' := by
    rw [OrderStore.failures, hevolves.accepted]
    by_cases hlen : s.heap.length ≤ ref
    · rw [hevolves.new ref obj' hlen hobj']
      exact (h.failures_eq_zero hlen).symm
    · have hlt : ref < s.heap.length := Nat.lt_of_not_le hlen
      have hobj := List.getElem?_eq_getElem hlt
      obtain ⟨obj₁, hobj₁, hnum, _⟩ := hevolves.object ref _ hobj
      rw [hobj'] at hobj₁
      cases hobj₁
      exact hnum.trans (h.counted ref _ hobj)
  bounded ref obj' hobj' hexhausted := by
    by_cases hlen : s.heap.length ≤ ref
    · rw [Exhausted, hevolves.new ref obj' hlen hobj'] at hexhausted
      omega
    · have hlt : ref < s.heap.length := Nat.lt_of_not_le hlen
      have hobj := List.getElem?_eq_getElem hlt
      obtain ⟨obj₁, hobj₁, hnum, hstate⟩ := hevolves.object ref _ hobj
      rw [hobj'] at hobj₁
      cases hobj₁
      have hexhausted' : K.Exhausted env s.heap[ref] := by
        rw [Exhausted, ← hnum]
        exact hexhausted
      obtain ⟨hmax, hfail⟩ := h.bounded ref _ hobj hexhausted'
      exact ⟨hnum.trans hmax, (hstate hexhausted').trans hfail⟩

theorem InBudget.fails {txId : JsString} (h : K.InBudget env s) (hfails : K.Fails env ref txId s t) :
    K.InBudget env t where
  known p hp := by
    rw [hfails.length]
    rw [hfails.accepted, List.mem_cons] at hp
    rcases hp with rfl | hp
    · obtain ⟨obj, _, hobj, _⟩ := hfails.object
      exact (List.getElem?_eq_some_iff.1 hobj).1
    · exact h.known p hp
  counted ref' obj' hobj' := by
    rw [OrderStore.failures, hfails.accepted, List.countP_cons]
    by_cases href : ref' = ref
    · subst href
      obtain ⟨obj, obj₁, hobj, _, hobj₁, hafter⟩ := hfails.object
      rw [hobj'] at hobj₁
      cases hobj₁
      rw [hafter.retryTxNum, h.counted ref' obj hobj]
      simp [OrderStore.failures]
    · rw [hfails.other ref' href] at hobj'
      rw [h.counted ref' obj' hobj', OrderStore.failures]
      simp [Ne.symm href]
  bounded ref' obj' hobj' hexhausted := by
    by_cases href : ref' = ref
    · subst href
      obtain ⟨obj, obj₁, hobj, hwithin, hobj₁, hafter⟩ := hfails.object
      rw [hobj'] at hobj₁
      cases hobj₁
      have hnum := hafter.retryTxNum
      rw [Exhausted] at hwithin hexhausted
      refine ⟨by omega, hafter.fail ?_⟩
      rwa [← hnum]
    · rw [hfails.other ref' href] at hobj'
      exact h.bounded ref' obj' hobj' hexhausted

theorem InBudget.steps (h : K.InBudget env s) (hsteps : K.Steps env s t) : K.InBudget env t := by
  rcases hsteps with hevolves | ⟨ref, txId, hfails⟩
  · exact h.evolves hevolves
  · exact h.fails hfails

/-- The object whose failure has been counted, after the handler of that failure. -/
theorem InBudget.after {txId : JsString} (h : K.InBudget env s) (hsteps : K.Steps env s t)
    (haccepted : t.accepted = (ref, txId) :: s.accepted) :
    ∃ obj, t.heap[ref]? = some obj ∧ K.After env (t.failures ref) s.now obj ∧
      t.failures ref ≤ K.retryMaxNum env + 1 := by
  have hbudget := h.steps hsteps
  rcases hsteps with hevolves | ⟨ref', txId', hfails⟩
  · rw [hevolves.accepted] at haccepted
    simp at haccepted
  · rw [hfails.accepted, List.cons.injEq, Prod.mk.injEq] at haccepted
    obtain ⟨⟨rfl, rfl⟩, _⟩ := haccepted
    obtain ⟨obj, obj', hobj, hwithin, hobj', hafter⟩ := hfails.object
    have hcount := hbudget.counted ref' obj' hobj'
    rw [hafter.retryTxNum] at hcount
    rw [Exhausted] at hwithin
    refine ⟨obj', hobj', ?_, by omega⟩
    rwa [← hcount]

end RetryKind

end CotServer
