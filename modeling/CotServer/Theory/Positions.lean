import CotServer.Theory.Interleaving
import Mathlib.Data.Multiset.AddSub
import Mathlib.Data.List.Forall2

/-!
# Positions of suspended functions

An abstract view of a pool, in which a function is only a position: what it has found out and may
still do. `Moves` says how a function can change the store from its position, what it can wait for
there, and what it has found out when it is answered; `Moves.Follows` says that a function does
nothing else.

An invariant is then a statement about the store and the positions of all functions together, so it
can say that what one of them holds no other one has. `Moves.sound` reduces it to the moves.
-/

namespace CotServer

open Async

/-- What a function can do, by its position. -/
structure Moves (σ : Type) {Op : Type} (Ans : Op → Type) (ε Pos : Type) where
  /-- A change within a segment. -/
  move : Pos → σ → Pos → σ → Prop
  /-- A segment ends at an await, and the function has the second position while it waits. -/
  wait : Pos → σ → Op → Pos → Prop
  /-- The position with the answer. -/
  receive : Pos → (op : Op) → Except ε (Ans op) → Pos

/-- A function in its segment, waiting for an answer, or with an answer. -/
inductive Spot {Op : Type} (Ans : Op → Type) (ε Pos : Type) where
  | runs (x : Pos)
  | waits (x : Pos) (op : Op)
  | has (x : Pos) (op : Op) (r : Except ε (Ans op))

/-- What the function is suspended at. -/
def Spot.op {Op : Type} {Ans : Op → Type} {ε Pos : Type} : Spot Ans ε Pos → Option Op
  | .runs _ => none
  | .waits _ op => some op
  | .has _ op _ => some op

namespace Moves

variable {σ Op : Type} {Ans : Op → Type} {ε Evt Ω Tag Pos α β : Type}
variable (M : Moves σ Ans ε Pos)

/-- The position of a function, with the answer that it has. -/
def pos : Spot Ans ε Pos → Pos
  | .runs x => x
  | .waits x _ => x
  | .has x op r => M.receive x op r

/-- The function makes only the moves of its position, up to an end that satisfies `Q`. -/
def Follows : Async σ Ans ε α → (Q : Except ε α → Pos → σ → Prop) → Pos → σ → Prop
  | .ret a, Q, x, s => Q (.ok a) x s
  | .fail e, Q, x, s => Q (.error e) x s
  | .read k, Q, x, s => Follows (k s) Q x s
  | .write t k, Q, x, s => ∃ y, M.move x s y t ∧ Follows k Q y t
  | .await op k, Q, x, s => ∃ y, M.wait x s op y ∧ ∀ r t, Follows (k r) Q (M.receive y op r) t

/-- Any end. -/
def Anyhow {α : Type} : Except ε α → Pos → σ → Prop := fun _ _ _ => True

section Rules

variable {M} {x y : Pos} {s t : σ}

@[simp] theorem follows_pure {a : α} {Q : Except ε α → Pos → σ → Prop} :
    M.Follows (pure a) Q x s ↔ Q (.ok a) x s := Iff.rfl

@[simp] theorem follows_throw {e : ε} {Q : Except ε α → Pos → σ → Prop} :
    M.Follows (throw e) Q x s ↔ Q (.error e) x s := Iff.rfl

@[simp] theorem follows_settle {r : Except ε α} {Q : Except ε α → Pos → σ → Prop} :
    M.Follows (settle r) Q x s ↔ Q r x s := by
  cases r <;> exact Iff.rfl

@[simp] theorem follows_throwIf {c : Prop} [Decidable c] {e : ε}
    {Q : Except ε Unit → Pos → σ → Prop} :
    M.Follows (throwIf c e) Q x s ↔ (c → Q (.error e) x s) ∧ (¬ c → Q (.ok ()) x s) := by
  by_cases h : c <;> simp [throwIf, h, Follows]

theorem follows_call {op : Op} {Q : Except ε (Ans op) → Pos → σ → Prop} :
    M.Follows (call op) Q x s ↔ ∃ y, M.wait x s op y ∧ ∀ r t, Q r (M.receive y op r) t := by
  simp only [call, Follows, follows_settle]

@[simp] theorem follows_store {Q : Except ε σ → Pos → σ → Prop} :
    M.Follows store Q x s ↔ Q (.ok s) x s := Iff.rfl

theorem follows_update {f : σ → σ} {Q : Except ε Unit → Pos → σ → Prop} :
    M.Follows (update f) Q x s ↔ ∃ y, M.move x s y (f s) ∧ Q (.ok ()) y (f s) := Iff.rfl

/-- What comes after a function is part of its end. -/
theorem follows_bind {p : Async σ Ans ε α} {f : α → Async σ Ans ε β}
    {Q : Except ε β → Pos → σ → Prop} :
    M.Follows (p >>= f) Q x s ↔ M.Follows p (fun
      | .ok a => M.Follows (f a) Q
      | .error e => Q (.error e)) x s := by
  rw [bind_def]
  induction p generalizing x s with
  | ret a => exact Iff.rfl
  | fail e => exact Iff.rfl
  | read k ih => exact ih s
  | write t k ih => simp only [Async.bind, Follows, ih]
  | await op k ih => simp only [Async.bind, Follows, ih]

theorem follows_tryCatch {p : Async σ Ans ε α} {h : ε → Async σ Ans ε α}
    {Q : Except ε α → Pos → σ → Prop} :
    M.Follows (tryCatch p h) Q x s ↔ M.Follows p (fun
      | .ok a => Q (.ok a)
      | .error e => M.Follows (h e) Q) x s := by
  rw [tryCatch_def]
  induction p generalizing x s with
  | ret a => exact Iff.rfl
  | fail e => exact Iff.rfl
  | read k ih => exact ih s
  | write t k ih => simp only [Async.catchError, Follows, ih]
  | await op k ih => simp only [Async.catchError, Follows, ih]

/-- The rule of consequence. -/
theorem Follows.mono {p : Async σ Ans ε α} {Q Q' : Except ε α → Pos → σ → Prop}
    (h : M.Follows p Q x s) (hQ : ∀ r y t, Q r y t → Q' r y t) : M.Follows p Q' x s := by
  induction p generalizing x s with
  | ret a => exact hQ _ _ _ h
  | fail e => exact hQ _ _ _ h
  | read k ih => exact ih s h
  | write t k ih =>
    obtain ⟨y, hmove, hk⟩ := h
    exact ⟨y, hmove, ih hk⟩
  | await op k ih =>
    obtain ⟨y, hwait, hk⟩ := h
    exact ⟨y, hwait, fun r t => ih r (hk r t)⟩

end Rules

/-! ## Invariants -/

/-- The operations that the functions are suspended at. -/
def AtOp (S : Multiset (Spot Ans ε Pos)) (op : Op) : Prop := ∃ spot ∈ S, spot.op = some op

/-- No function is in its segment. -/
def Suspended (R : Multiset (Spot Ans ε Pos)) : Prop := ∀ x, Spot.runs x ∉ R

/-- `J` speaks about the store and the functions, of which at most one is in its segment. It may use
that the steps are `Allowed`, a condition on the store, the operations that functions are suspended
at, and the action. -/
structure Invariant (P : Program σ Ans ε Evt Ω Tag)
    (Allowed : σ → (Op → Prop) → Action Ans ε Evt Ω → Prop) (start : Evt → Pos)
    (J : σ → Multiset (Spot Ans ε Pos) → Prop) : Prop where
  drop : ∀ {s spot R}, J s (spot ::ₘ R) → J s R
  move : ∀ {s t x y R}, Suspended R → J s (.runs x ::ₘ R) → M.move x s y t → J t (.runs y ::ₘ R)
  wait : ∀ {s x op y R}, Suspended R → J s (.runs x ::ₘ R) → M.wait x s op y →
    J s (.waits y op ::ₘ R)
  answer : ∀ {s t x op o r R}, Suspended R → J s (.waits x op ::ₘ R) →
    Allowed s (AtOp (.waits x op ::ₘ R)) (.answer op o) → P.answer op o s = some (r, t) →
      J t (.has x op r ::ₘ R)
  resume : ∀ {s x op r R}, Suspended R → J s (.has x op r ::ₘ R) →
    Allowed s (AtOp (.has x op r ::ₘ R)) (.resume op r) → J s (.runs (M.receive x op r) ::ₘ R)
  event : ∀ {s t e next S R}, Suspended S → J s S → Allowed s (AtOp S) (.event e) →
    P.event e s = some (t, next) → R ≤ S → match (next : Option (Tag × Async σ Ans ε Unit)) with
      | none => J t R
      | some _ => J t (.runs (start e) ::ₘ R)

/-- The condition on a step of a pool. -/
def Allows (Allowed : σ → (Op → Prop) → Action Ans ε Evt Ω → Prop) (c : Pool σ Ans ε Tag)
    (l : Label Evt Ω) : Prop :=
  ∀ a ∈ Program.action c l, Allowed c.store (fun op => ∃ t ∈ c.tasks, t.op = op) a

/-- The functions that events start follow the moves. -/
def Starts (P : Program σ Ans ε Evt Ω Tag) (start : Evt → Pos) : Prop :=
  ∀ e s t tag p, P.event e s = some (t, some (tag, p)) → M.Follows p Anyhow (start e) t

/-- A suspended function and its spot. -/
def TaskAt (t : Task σ Ans ε Tag) (spot : Spot Ans ε Pos) : Prop :=
  match t.reply with
  | none => ∃ x, spot = .waits x t.op ∧
    ∀ r u, M.Follows (t.next r) Anyhow (M.receive x t.op r) u
  | some r => ∃ x, spot = .has x t.op r ∧ ∀ u, M.Follows (t.next r) Anyhow (M.receive x t.op r) u

/-- The functions of a pool are at spots for which `J` holds. -/
def Holds (J : σ → Multiset (Spot Ans ε Pos) → Prop) (c : Pool σ Ans ε Tag) : Prop :=
  ∃ S : List (Spot Ans ε Pos), List.Forall₂ M.TaskAt c.tasks S ∧ J c.store S

section Sound

variable {M} {P : Program σ Ans ε Evt Ω Tag}
  {Allowed : σ → (Op → Prop) → Action Ans ε Evt Ω → Prop} {start : Evt → Pos}
  {J : σ → Multiset (Spot Ans ε Pos) → Prop}

theorem TaskAt.op_eq {t : Task σ Ans ε Tag} {spot : Spot Ans ε Pos} (h : M.TaskAt t spot) :
    spot.op = some t.op := by
  unfold TaskAt at h
  split at h <;> obtain ⟨x, rfl, _⟩ := h <;> rfl

/-- The spots are suspended at the operations of the tasks. -/
theorem atOp_of_forall₂ {ts : List (Task σ Ans ε Tag)} {S : List (Spot Ans ε Pos)}
    (h : List.Forall₂ M.TaskAt ts S) :
    AtOp (S : Multiset (Spot Ans ε Pos)) = fun op => ∃ t ∈ ts, t.op = op := by
  funext op
  refine propext ?_
  induction h with
  | nil => simp [AtOp]
  | @cons t spot ts S hhead htail ih =>
    simp only [AtOp, Multiset.mem_coe, List.mem_cons, exists_eq_or_imp, hhead.op_eq,
      Option.some.injEq] at ih ⊢
    rw [ih]

theorem Suspended.mono {R R' : Multiset (Spot Ans ε Pos)} (h : Suspended R) (hR : R' ≤ R) :
    Suspended R' := fun x hx => h x (Multiset.mem_of_le hR hx)

/-- One more function that is not in its segment. -/
theorem Suspended.cons {own : Spot Ans ε Pos} {R : Multiset (Spot Ans ε Pos)} (h : Suspended R)
    (hown : ∀ x, own ≠ .runs x) : Suspended (own ::ₘ R) := by
  intro x hx
  rcases Multiset.mem_cons.1 hx with heq | hx
  · exact hown x heq.symm
  · exact h x hx

/-- The spots of tasks. -/
theorem suspended_of_forall₂ {ts : List (Task σ Ans ε Tag)} {S : List (Spot Ans ε Pos)}
    (h : List.Forall₂ M.TaskAt ts S) : Suspended (S : Multiset (Spot Ans ε Pos)) := by
  intro x hx
  rw [Multiset.mem_coe] at hx
  induction h with
  | nil => cases hx
  | cons hhead htail ih =>
    rcases List.mem_cons.1 hx with rfl | hx
    · cases hhead.op_eq
    · exact ih hx

/-- A segment, from a running function to its end or its next await. -/
theorem runSegment (hJ : M.Invariant P Allowed start J) (tag : Tag) {p : Async σ Ans ε Unit}
    {x : Pos} {s : σ} {R : Multiset (Spot Ans ε Pos)} (hR : Suspended R)
    (h : M.Follows p Anyhow x s) (hs : J s (.runs x ::ₘ R)) :
    match Program.runSegment tag p s with
    | (t, none) => J t R
    | (t, some task) => ∃ spot, M.TaskAt task spot ∧ J t (spot ::ₘ R) := by
  induction p generalizing x s with
  | ret a => exact hJ.drop hs
  | fail e => exact hJ.drop hs
  | read k ih => exact ih s h hs
  | write t k ih =>
    obtain ⟨y, hmove, hk⟩ := h
    exact ih hk (hJ.move hR hs hmove)
  | await op k ih =>
    obtain ⟨y, hwait, hk⟩ := h
    exact ⟨.waits y op, ⟨y, rfl, hk⟩, hJ.wait hR hs hwait⟩

/-- One task of a pool, its spot and the others. -/
theorem forall₂_at {ts : List (Task σ Ans ε Tag)} {S : List (Spot Ans ε Pos)} {i : Nat}
    {t : Task σ Ans ε Tag} (h : List.Forall₂ M.TaskAt ts S) (ht : ts[i]? = some t) :
    ∃ spot R, M.TaskAt t spot ∧ (S : Multiset (Spot Ans ε Pos)) = spot ::ₘ R ∧
      (∃ S' : List (Spot Ans ε Pos), List.Forall₂ M.TaskAt (ts.eraseIdx i) S' ∧ S' = R) ∧
      ∀ t' spot', M.TaskAt t' spot' → ∃ S' : List (Spot Ans ε Pos),
        List.Forall₂ M.TaskAt (ts.set i t') S' ∧ S' = spot' ::ₘ R := by
  induction h generalizing i with
  | nil => cases ht
  | @cons t₀ spot₀ ts S hhead htail ih =>
    cases i with
    | zero =>
      cases ht
      refine ⟨spot₀, S, hhead, rfl, ⟨S, htail, rfl⟩, fun t' spot' h' => ?_⟩
      exact ⟨spot' :: S, .cons h' htail, rfl⟩
    | succ i =>
      obtain ⟨spot, R, hspot, hS, ⟨S', hrest, hS'⟩, hset⟩ := ih ht
      refine ⟨spot, spot₀ ::ₘ R, hspot, ?_, ⟨spot₀ :: S', .cons hhead hrest, ?_⟩, ?_⟩
      · rw [← Multiset.cons_coe, hS, Multiset.cons_swap]
      · rw [← Multiset.cons_coe, hS']
      · intro t' spot' h'
        obtain ⟨S', hrest, hS'⟩ := hset t' spot' h'
        refine ⟨spot₀ :: S', .cons hhead hrest, ?_⟩
        rw [← Multiset.cons_coe, hS', Multiset.cons_swap]

theorem forall₂_filter {ts : List (Task σ Ans ε Tag)} {S : List (Spot Ans ε Pos)}
    (f : Task σ Ans ε Tag → Bool) (h : List.Forall₂ M.TaskAt ts S) :
    ∃ S' : List (Spot Ans ε Pos), List.Forall₂ M.TaskAt (ts.filter f) S' ∧
      (S' : Multiset (Spot Ans ε Pos)) ≤ S := by
  induction h with
  | nil => exact ⟨[], .nil, le_rfl⟩
  | @cons t spot ts S hhead htail ih =>
    obtain ⟨S', hS', hle⟩ := ih
    rw [List.filter_cons]
    split
    · exact ⟨spot :: S', .cons hhead hS', Multiset.cons_le_cons _ hle⟩
    · exact ⟨S', hS', hle.trans (Multiset.le_cons_self _ _)⟩

theorem Holds.event (hJ : M.Invariant P Allowed start J) (hstarts : M.Starts P start)
    {c c' : Pool σ Ans ε Tag} {e : Evt} (h : M.Holds J c) (hall : Allows Allowed c (.event e))
    (hstep : P.step c (.event e) = some c') : M.Holds J c' := by
  obtain ⟨S, hS, hs⟩ := h
  obtain ⟨S', hS', hle⟩ := forall₂_filter (fun t => !P.kills e t.tag) hS
  have hA : Allowed c.store (AtOp (S : Multiset (Spot Ans ε Pos))) (.event e) := by
    rw [atOp_of_forall₂ hS]
    exact hall _ rfl
  have hsuspended := suspended_of_forall₂ hS
  simp only [Program.step] at hstep
  split at hstep
  · cases hstep
  · next s hev =>
    cases hstep
    exact ⟨S', hS', hJ.event hsuspended hs hA hev hle⟩
  · next s tag p hev =>
    cases hstep
    have hrun := runSegment hJ tag (suspended_of_forall₂ hS') (hstarts _ _ _ _ _ hev)
      (hJ.event hsuspended hs hA hev hle)
    split at hrun
    · next t hseg =>
      rw [hseg]
      exact ⟨S', by simpa using hS', hrun⟩
    · next t task hseg =>
      obtain ⟨spot, hspot, hrun⟩ := hrun
      rw [hseg]
      refine ⟨S' ++ [spot], List.rel_append hS' (.cons hspot .nil), ?_⟩
      rw [← Multiset.coe_add, Multiset.add_comm]
      exact hrun

theorem Holds.answer (hJ : M.Invariant P Allowed start J) {c c' : Pool σ Ans ε Tag} {i : Nat}
    {o : Ω} (h : M.Holds J c) (hall : Allows Allowed c (.answer i o))
    (hstep : P.step c (.answer i o) = some c') : M.Holds J c' := by
  obtain ⟨S, hS, hs⟩ := h
  simp only [Program.step] at hstep
  split at hstep
  · next tag op next hget =>
    obtain ⟨spot, R, ⟨x, rfl, hnext⟩, hR, -, hset⟩ := forall₂_at hS hget
    have hsuspended : Suspended R :=
      (suspended_of_forall₂ hS).mono (hR ▸ Multiset.le_cons_self _ _)
    have hA : Allowed c.store (AtOp (S : Multiset (Spot Ans ε Pos))) (.answer op o) := by
      rw [atOp_of_forall₂ hS]
      exact hall _ (by simp [Program.action, hget])
    split at hstep
    · cases hstep
    · next r s hans =>
      cases hstep
      obtain ⟨S', hS', heq⟩ := hset ⟨tag, op, next, some r⟩ (.has x op r) ⟨x, rfl, hnext r⟩
      rw [hR] at hs hA
      exact ⟨S', hS', heq ▸ hJ.answer hsuspended hs hA hans⟩
  · cases hstep

theorem Holds.resume (hJ : M.Invariant P Allowed start J) {c c' : Pool σ Ans ε Tag} {i : Nat}
    (h : M.Holds J c) (hall : Allows Allowed c (.resume i))
    (hstep : P.step c (.resume i) = some c') : M.Holds J c' := by
  obtain ⟨S, hS, hs⟩ := h
  simp only [Program.step] at hstep
  split at hstep
  · next tag op next r hget =>
    obtain ⟨spot, R, ⟨x, rfl, hnext⟩, hR, ⟨S', hS', heq⟩, hset⟩ := forall₂_at hS hget
    have hsuspended : Suspended R :=
      (suspended_of_forall₂ hS).mono (hR ▸ Multiset.le_cons_self _ _)
    have hA : Allowed c.store (AtOp (S : Multiset (Spot Ans ε Pos))) (.resume op r) := by
      rw [atOp_of_forall₂ hS]
      exact hall _ (by simp [Program.action, hget])
    rw [hR] at hs hA
    have hrun := runSegment hJ tag hsuspended (hnext c.store) (hJ.resume hsuspended hs hA)
    split at hstep
    · next s hseg =>
      cases hstep
      rw [hseg] at hrun
      exact ⟨S', hS', heq ▸ hrun⟩
    · next s t hseg =>
      cases hstep
      rw [hseg] at hrun
      obtain ⟨spot, hspot, hrun⟩ := hrun
      obtain ⟨S', hS', heq⟩ := hset t spot hspot
      exact ⟨S', hS', heq ▸ hrun⟩
  · cases hstep

theorem Holds.step (hJ : M.Invariant P Allowed start J) (hstarts : M.Starts P start)
    {c c' : Pool σ Ans ε Tag} {l : Label Evt Ω} (h : M.Holds J c) (hall : Allows Allowed c l)
    (hstep : P.step c l = some c') : M.Holds J c' := by
  cases l with
  | event e => exact h.event hJ hstarts hall hstep
  | answer i o => exact h.answer hJ hall hstep
  | resume i => exact h.resume hJ hall hstep

/-- **Soundness.** Every allowed run keeps the invariant. -/
theorem sound (hJ : M.Invariant P Allowed start J) (hstarts : M.Starts P start)
    {c c' : Pool σ Ans ε Tag} {ls : List (Label Evt Ω)} (h : M.Holds J c)
    (hall : P.system.Meets (Allows Allowed) c ls) (hrun : P.system.run c ls = some c') :
    M.Holds J c' :=
  System.run_invariant (I := M.Holds J) (fun _ _ _ hc hl hstep => hc.step hJ hstarts hl hstep) h
    hall hrun

/-- The invariant with what is known of the suspended functions. -/
theorem Holds.mono {J' : σ → Multiset (Spot Ans ε Pos) → Prop} {c : Pool σ Ans ε Tag}
    (h : M.Holds J c) (hJ : ∀ S, J c.store S → (∀ spot ∈ S, ∃ t ∈ c.tasks, M.TaskAt t spot) →
      J' c.store S) : M.Holds J' c := by
  obtain ⟨s, ts⟩ := c
  obtain ⟨S, hS, hs⟩ := h
  refine ⟨S, hS, hJ S hs fun spot hmem => ?_⟩
  change List.Forall₂ M.TaskAt ts S at hS
  change ∃ t ∈ ts, M.TaskAt t spot
  clear hs hJ
  induction hS with
  | nil => cases hmem
  | @cons t spot' ts S hhead htail ih =>
    rcases List.mem_cons.1 hmem with rfl | hmem
    · exact ⟨t, List.mem_cons_self, hhead⟩
    · obtain ⟨t', hmem', hat⟩ := ih hmem
      exact ⟨t', List.mem_cons_of_mem _ hmem', hat⟩

/-- A pool with no suspended function. -/
theorem Holds.idle {s : σ} (h : J s 0) : M.Holds J (⟨s, []⟩ : Pool σ Ans ε Tag) :=
  ⟨[], .nil, h⟩

end Sound

end Moves

end CotServer
