import CotServer.Theory.Positions

/-!
# A call alongside other functions

`P.Alongside p c tr r c'` is one call of `p` from the pool `c` on: between two of its segments the
functions of the pool, and those that events start, run as they like. The trace `tr` holds the
operations of the call itself, each with the stores right before and after its answer, so that it
tells what the call does apart from what the others do.
-/

namespace CotServer

open Async

/-- An operation of a call and its answer, with the stores around the answer. -/
structure Exchange (σ : Type) {Op : Type} (Ans : Op → Type) (ε : Type) where
  op : Op
  before : σ
  reply : Except ε (Ans op)
  after : σ

/-- The same functions with another store. -/
abbrev Pool.withStore {σ Op : Type} {Ans : Op → Type} {ε Tag : Type} (c : Pool σ Ans ε Tag) (s : σ) :
    Pool σ Ans ε Tag := ⟨s, c.tasks⟩

namespace Program

variable {σ Op : Type} {Ans : Op → Type} {ε Evt Ω Tag α β : Type}
variable (P : Program σ Ans ε Evt Ω Tag)

/-- The operation is handed out, and answered between steps of the others. -/
def Exchanges (c : Pool σ Ans ε Tag) (x : Exchange σ Ans ε) (c' : Pool σ Ans ε Tag) : Prop :=
  ∃ (ls : List (Label Evt Ω)) (c₁ : Pool σ Ans ε Tag) (o : Ω) (ls' : List (Label Evt Ω)),
    P.system.run c ls = some c₁ ∧ c₁.store = x.before ∧
      P.answer x.op o x.before = some (x.reply, x.after) ∧
      P.system.run (c₁.withStore x.after) ls' = some c'

/-- A call of `p` with the trace `tr` and the result `r`. -/
def Alongside : Async σ Ans ε α → Pool σ Ans ε Tag → List (Exchange σ Ans ε) → Except ε α →
    Pool σ Ans ε Tag → Prop
  | .ret a, c, tr, r, c' => tr = [] ∧ r = .ok a ∧ c' = c
  | .fail e, c, tr, r, c' => tr = [] ∧ r = .error e ∧ c' = c
  | .read k, c, tr, r, c' => Alongside (k c.store) c tr r c'
  | .write t k, c, tr, r, c' => Alongside k (c.withStore t) tr r c'
  | .await op k, c, tr, r, c' => ∃ before a after c₁ tr',
      tr = ⟨op, before, a, after⟩ :: tr' ∧ P.Exchanges c ⟨op, before, a, after⟩ c₁ ∧
        Alongside (k a) c₁ tr' r c'

section Rules

variable {P} {c c' : Pool σ Ans ε Tag} {tr : List (Exchange σ Ans ε)}

theorem Exchanges.answered {op : Op} {before after : σ} {r : Except ε (Ans op)}
    (h : P.Exchanges c ⟨op, before, r, after⟩ c') :
    ∃ o, P.answer op o before = some (r, after) := by
  obtain ⟨_, _, o, _, _, _, hans, _⟩ := h
  exact ⟨o, hans⟩

@[simp] theorem alongside_pure {a : α} {r : Except ε α} :
    P.Alongside (pure a) c tr r c' ↔ tr = [] ∧ r = .ok a ∧ c' = c := Iff.rfl

@[simp] theorem alongside_settle {x r : Except ε α} :
    P.Alongside (settle x) c tr r c' ↔ tr = [] ∧ r = x ∧ c' = c := by
  cases x <;> exact Iff.rfl

theorem alongside_throwIf {b : Prop} [Decidable b] {e : ε} {r : Except ε Unit} :
    P.Alongside (throwIf b e) c tr r c' ↔
      tr = [] ∧ (b ∧ r = .error e ∨ ¬ b ∧ r = .ok ()) ∧ c' = c := by
  by_cases hb : b <;> simp [throwIf, hb, Alongside]

theorem alongside_throwIf_bind {b : Prop} [Decidable b] {e : ε} {k : Unit → Async σ Ans ε α}
    {r : Except ε α} : P.Alongside (throwIf b e >>= k) c tr r c' ↔
      b ∧ tr = [] ∧ r = .error e ∧ c' = c ∨ ¬ b ∧ P.Alongside (k ()) c tr r c' := by
  rw [bind_def]
  by_cases hb : b <;> simp [throwIf, hb, Async.bind, Alongside]

theorem alongside_call {op : Op} {r : Except ε (Ans op)} :
    P.Alongside (call op) c tr r c' ↔
      ∃ before after, tr = [⟨op, before, r, after⟩] ∧ P.Exchanges c ⟨op, before, r, after⟩ c' := by
  constructor
  · rintro ⟨before, a, after, c₁, tr', htr, hex, hk⟩
    obtain ⟨rfl, rfl, rfl⟩ := alongside_settle.1 hk
    exact ⟨before, after, htr, hex⟩
  · rintro ⟨before, after, htr, hex⟩
    exact ⟨before, r, after, c', [], htr, hex, alongside_settle.2 ⟨rfl, rfl, rfl⟩⟩

/-- A call is in the trace. -/
theorem exists_op_of_alongside_call {op : Op} {r : Except ε (Ans op)}
    (h : P.Alongside (call op) c tr r c') : ∃ x ∈ tr, x.op = op := by
  obtain ⟨before, after, rfl, _⟩ := alongside_call.1 h
  exact ⟨_, List.mem_singleton_self _, rfl⟩

@[simp] theorem alongside_store_bind {k : σ → Async σ Ans ε α} {r : Except ε α} :
    P.Alongside (store >>= k) c tr r c' ↔ P.Alongside (k c.store) c tr r c' := Iff.rfl

@[simp] theorem alongside_update_bind {f : σ → σ} {k : Unit → Async σ Ans ε α} {r : Except ε α} :
    P.Alongside (update f >>= k) c tr r c' ↔ P.Alongside (k ()) (c.withStore (f c.store)) tr r c' :=
  Iff.rfl

/-- A call of `p >>= f` is a call of `p` that throws, or one of `p` and then one of `f`. -/
theorem alongside_bind {p : Async σ Ans ε α} {f : α → Async σ Ans ε β} {r : Except ε β} :
    P.Alongside (p >>= f) c tr r c' ↔
      (∃ e, r = .error e ∧ P.Alongside p c tr (.error e) c') ∨
        ∃ a c₁ tr₁ tr₂, tr = tr₁ ++ tr₂ ∧ P.Alongside p c tr₁ (.ok a) c₁ ∧
          P.Alongside (f a) c₁ tr₂ r c' := by
  rw [bind_def]
  induction p generalizing c tr with
  | ret a =>
    constructor
    · intro h
      exact .inr ⟨a, c, [], tr, rfl, ⟨rfl, rfl, rfl⟩, h⟩
    · rintro (⟨e, -, -, h, -⟩ | ⟨_, _, _, _, rfl, ⟨rfl, h, rfl⟩, hf⟩)
      · cases h
      · cases h
        exact hf
  | fail e =>
    constructor
    · rintro ⟨rfl, rfl, rfl⟩
      exact .inl ⟨e, rfl, rfl, rfl, rfl⟩
    · rintro (⟨e', rfl, rfl, h, rfl⟩ | ⟨_, _, _, _, -, ⟨-, h, -⟩, -⟩)
      · cases h
        exact ⟨rfl, rfl, rfl⟩
      · cases h
  | read k ih => exact ih c.store
  | write t k ih => exact ih
  | await op k ih =>
    simp only [Async.bind, Alongside, ih]
    constructor
    · rintro ⟨before, a, after, c₁, tr', rfl, hex, ⟨e, rfl, hk⟩ | ⟨b, c₂, tr₁, tr₂, rfl, hk, hf⟩⟩
      · exact .inl ⟨e, rfl, before, a, after, c₁, tr', rfl, hex, hk⟩
      · exact .inr ⟨b, c₂, _ :: tr₁, tr₂, rfl, ⟨before, a, after, c₁, tr₁, rfl, hex, hk⟩, hf⟩
    · rintro (⟨e, rfl, before, a, after, c₁, tr', rfl, hex, hk⟩ |
        ⟨b, c₂, _, tr₂, rfl, ⟨before, a, after, c₁, tr₁, rfl, hex, hk⟩, hf⟩)
      · exact ⟨before, a, after, c₁, tr', rfl, hex, .inl ⟨e, rfl, hk⟩⟩
      · exact ⟨before, a, after, c₁, tr₁ ++ tr₂, rfl, hex, .inr ⟨b, c₂, tr₁, tr₂, rfl, hk, hf⟩⟩

/-- A call that returns goes through every step of a sequence. -/
theorem alongside_bind_ok {p : Async σ Ans ε α} {f : α → Async σ Ans ε β} {b : β} :
    P.Alongside (p >>= f) c tr (.ok b) c' ↔ ∃ a c₁ tr₁ tr₂, tr = tr₁ ++ tr₂ ∧
      P.Alongside p c tr₁ (.ok a) c₁ ∧ P.Alongside (f a) c₁ tr₂ (.ok b) c' := by
  simp [alongside_bind]

end Rules

/-! ## Replaying a call -/

/-- What is replayed of a call: for each of its awaits the steps of the others before the answer,
the choice of the answer, and the steps of the others after it. -/
def callReplay : Async σ Ans ε α → List (List (Label Evt Ω) × Ω × List (Label Evt Ω)) →
    Pool σ Ans ε Tag → Option (List (Exchange σ Ans ε) × Except ε α × Pool σ Ans ε Tag)
  | .ret a, _, c => some ([], .ok a, c)
  | .fail e, _, c => some ([], .error e, c)
  | .read k, os, c => callReplay (k c.store) os c
  | .write t k, os, c => callReplay k os (c.withStore t)
  | .await _ _, [], _ => none
  | .await op k, (ls, o, ls') :: os, c => do
    let c₁ ← P.system.run c ls
    let (a, t) ← P.answer op o c₁.store
    let c₂ ← P.system.run (c₁.withStore t) ls'
    let (tr, r, c') ← callReplay (k a) os c₂
    return (⟨op, c₁.store, a, t⟩ :: tr, r, c')

theorem alongside_of_replay {p : Async σ Ans ε α}
    {os : List (List (Label Evt Ω) × Ω × List (Label Evt Ω))} {c c' : Pool σ Ans ε Tag}
    {tr : List (Exchange σ Ans ε)} {r : Except ε α} (h : P.callReplay p os c = some (tr, r, c')) :
    P.Alongside p c tr r c' := by
  induction p generalizing os c tr with
  | ret a =>
    cases h
    exact ⟨rfl, rfl, rfl⟩
  | fail e =>
    cases h
    exact ⟨rfl, rfl, rfl⟩
  | read k ih => exact ih c.store h
  | write t k ih => exact ih h
  | await op k ih =>
    match os with
    | [] => cases h
    | (ls, o, ls') :: os =>
      simp only [callReplay, Option.bind_eq_bind, Option.bind_eq_some_iff] at h
      obtain ⟨c₁, hbefore, ⟨a, t⟩, hans, c₂, hafter, ⟨tr', r', c''⟩, hk, heq⟩ := h
      cases heq
      exact ⟨c₁.store, a, t, c₂, tr', rfl, ⟨ls, c₁, o, ls', hbefore, rfl, hans, hafter⟩, ih a hk⟩

/-- A call is replayed after a run, to see that it passes a test. -/
theorem exists_alongside (p : Async σ Ans ε α) (c : Pool σ Ans ε Tag) (ls : List (Label Evt Ω))
    (os : List (List (Label Evt Ω) × Ω × List (Label Evt Ω)))
    (test : List (Exchange σ Ans ε) → Except ε α → Pool σ Ans ε Tag → Bool)
    (h : ((P.system.run c ls).bind (P.callReplay p os)).any (fun x => test x.1 x.2.1 x.2.2) = true) :
    ∃ c₁ tr r c', P.system.run c ls = some c₁ ∧ P.Alongside p c₁ tr r c' ∧ test tr r c' = true := by
  obtain ⟨⟨tr, r, c'⟩, hreplay, htest⟩ := (Option.any_eq_true _ _).1 h
  obtain ⟨c₁, hrun, hcall⟩ := Option.bind_eq_some_iff.1 hreplay
  exact ⟨c₁, tr, r, c', hrun, P.alongside_of_replay hcall, htest⟩

/-- A call is replayed to see that it returns. -/
theorem exists_returning (p : Async σ Ans ε α) (c : Pool σ Ans ε Tag)
    (os : List (List (Label Evt Ω) × Ω × List (Label Evt Ω)))
    (h : (P.callReplay p os c).any (fun x => x.2.1.toOption.isSome) = true) :
    ∃ tr a c', P.Alongside p c tr (.ok a) c' := by
  obtain ⟨⟨tr, r, c'⟩, hreplay, hreturns⟩ := (Option.any_eq_true _ _).1 h
  cases r with
  | error e => cases hreturns
  | ok a => exact ⟨tr, a, c', P.alongside_of_replay hreplay⟩

end Program

/-! ## Invariants -/

namespace Moves

variable {σ Op : Type} {Ans : Op → Type} {ε Evt Ω Tag Pos α : Type}
variable {M : Moves σ Ans ε Pos} {P : Program σ Ans ε Evt Ω Tag} {start : Evt → Pos}
  {J : σ → Multiset (Spot Ans ε Pos) → Prop}

/-- An invariant of a pool and one more function. -/
theorem Invariant.cons (hJ : M.Invariant P (fun _ _ _ => True) start J) {own : Spot Ans ε Pos}
    (hown : ∀ x, own ≠ .runs x) :
    M.Invariant P (fun _ _ _ => True) start fun s S => J s (own ::ₘ S) where
  drop h := by
    rw [Multiset.cons_swap] at h
    exact hJ.drop h
  move hR h hmove := by
    rw [Multiset.cons_swap] at h ⊢
    exact hJ.move (hR.cons hown) h hmove
  wait hR h hwait := by
    rw [Multiset.cons_swap] at h ⊢
    exact hJ.wait (hR.cons hown) h hwait
  answer hR h _ hans := by
    rw [Multiset.cons_swap] at h ⊢
    exact hJ.answer (hR.cons hown) h trivial hans
  resume hR h _ := by
    rw [Multiset.cons_swap] at h ⊢
    exact hJ.resume (hR.cons hown) h trivial
  event hS h _ hev hR := by
    have hstep := hJ.event (hS.cons hown) h trivial hev (Multiset.cons_le_cons own hR)
    split at hstep
    · exact hstep
    · rw [Multiset.cons_swap]
      exact hstep

/-- The functions of a pool and one more are at spots for which `J` holds. -/
def HoldsWith (M : Moves σ Ans ε Pos) (J : σ → Multiset (Spot Ans ε Pos) → Prop)
    (own : Spot Ans ε Pos) (c : Pool σ Ans ε Tag) : Prop :=
  M.Holds (fun s S => J s (own ::ₘ S)) c

theorem HoldsWith.run (hJ : M.Invariant P (fun _ _ _ => True) start J) (hstarts : M.Starts P start)
    {own : Spot Ans ε Pos} {c c' : Pool σ Ans ε Tag} {ls : List (Label Evt Ω)}
    (hown : ∀ x, own ≠ .runs x) (h : M.HoldsWith J own c) (hrun : P.system.run c ls = some c') :
    M.HoldsWith J own c' :=
  Moves.sound (hJ.cons hown) hstarts h ((System.meets_true _ _).mono fun _ _ _ _ _ => trivial) hrun

/-- The others run while the call waits, it is answered, and they run again. -/
theorem HoldsWith.exchange (hJ : M.Invariant P (fun _ _ _ => True) start J)
    (hstarts : M.Starts P start) {x : Pos} {ex : Exchange σ Ans ε} {c c' : Pool σ Ans ε Tag}
    (h : M.HoldsWith J (.waits x ex.op) c) (hex : P.Exchanges c ex c') :
    ∃ c₁ : Pool σ Ans ε Tag, ∃ ls, c₁.store = ex.before ∧ M.HoldsWith J (.waits x ex.op) c₁ ∧
      M.HoldsWith J (.has x ex.op ex.reply) (c₁.withStore ex.after) ∧
      P.system.run (c₁.withStore ex.after) ls = some c' ∧
      M.HoldsWith J (.has x ex.op ex.reply) c' := by
  obtain ⟨ls, c₁, o, ls', hbefore, hstore, hans, hafter⟩ := hex
  have hwaits := HoldsWith.run hJ hstarts (fun _ h => by cases h) h hbefore
  obtain ⟨S, hS, hs⟩ := hwaits
  rw [← hstore] at hans
  have hanswered : M.HoldsWith J (.has x ex.op ex.reply) (c₁.withStore ex.after) :=
    ⟨S, hS, hJ.answer (suspended_of_forall₂ hS) hs trivial hans⟩
  have hlater := HoldsWith.run hJ hstarts (fun _ h => by cases h) hanswered hafter
  exact ⟨c₁, ls', hstore, ⟨S, hS, hs⟩, hanswered, hafter, hlater⟩

/-- Every call of a function that follows the moves keeps the invariant. -/
theorem Follows.alongside (hJ : M.Invariant P (fun _ _ _ => True) start J)
    (hstarts : M.Starts P start) {p : Async σ Ans ε α} {Q : Except ε α → Pos → σ → Prop} {x : Pos}
    {c c' : Pool σ Ans ε Tag} {tr : List (Exchange σ Ans ε)} {r : Except ε α}
    (hp : M.Follows p Q x c.store) (hc : M.HoldsWith J (.runs x) c)
    (hcall : P.Alongside p c tr r c') : ∃ y, Q r y c'.store ∧ M.HoldsWith J (.runs y) c' := by
  induction p generalizing c x tr with
  | ret a =>
    obtain ⟨-, rfl, rfl⟩ := hcall
    exact ⟨x, hp, hc⟩
  | fail e =>
    obtain ⟨-, rfl, rfl⟩ := hcall
    exact ⟨x, hp, hc⟩
  | read k ih => exact ih c.store hp hc hcall
  | write t k ih =>
    obtain ⟨y, hmove, hk⟩ := hp
    obtain ⟨S, hS, hs⟩ := hc
    have hmoved : M.HoldsWith J (.runs y) (c.withStore t) :=
      ⟨S, hS, hJ.move (suspended_of_forall₂ hS) hs hmove⟩
    exact ih hk hmoved hcall
  | await op k ih =>
    obtain ⟨y, hwait, hk⟩ := hp
    obtain ⟨S, hS, hs⟩ := hc
    obtain ⟨before, a, after, c₂, tr', rfl, hex, hcall⟩ := hcall
    have hwaits : M.HoldsWith J (.waits y op) c :=
      ⟨S, hS, hJ.wait (suspended_of_forall₂ hS) hs hwait⟩
    obtain ⟨-, -, -, -, -, -, S₂, hS₂, hs₂⟩ := HoldsWith.exchange hJ hstarts hwaits hex
    have hruns := hJ.resume (suspended_of_forall₂ hS₂) hs₂ trivial
    exact ih a (hk a c₂.store) ⟨S₂, hS₂, hruns⟩ hcall

end Moves

end CotServer
