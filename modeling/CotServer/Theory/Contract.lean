import CotServer.Theory.Component
import CotServer.Theory.Tagged

/-!
# Contracts

A contract says what the functions of a program keep, what they ask for in their calls, and what
they are told there. In `Contract.Holds` a function keeps the invariant by each of its writes, and
at an await it may find any store that satisfies it. `Contract.run` is the induction over runs; a
contract of a component is one of the program that hosts it (`Contract.Holds.via`).
-/

namespace CotServer

open Async

structure Contract (σ : Type) {Op : Type} (Ans : Op → Type) where
  Inv : σ → Prop
  Asks : Op → Prop
  Tells : (op : Op) → Ans op → Prop

namespace Contract

variable {σ Op : Type} {Ans : Op → Type} {ε Evt Ω Tag α β : Type}
variable (K : Contract σ Ans)

/-- The function keeps the contract, and returns what satisfies `Q`. -/
def Holds : Async σ Ans ε α → (α → Prop) → σ → Prop
  | .ret a, Q, _ => Q a
  | .fail _, _, _ => True
  | .read k, Q, s => Holds (k s) Q s
  | .write t k, Q, _ => K.Inv t ∧ Holds k Q t
  | .await op k, Q, _ =>
    K.Asks op ∧ ∀ r t, K.Inv t → (∀ a, r = .ok a → K.Tells op a) → Holds (k r) Q t

/-- A function of which nothing is returned. -/
abbrev Keeps (p : Async σ Ans ε α) (s : σ) : Prop := K.Holds p (fun _ => True) s

section Rules

variable {K} {s : σ} {Q Q' : α → Prop} {R : β → Prop}

theorem holds_pure {a : α} (h : Q a) : K.Holds (pure a : Async σ Ans ε α) Q s := h

theorem holds_throw {e : ε} : K.Holds (throw e : Async σ Ans ε α) Q s := trivial

theorem holds_settle {r : Except ε α} (h : ∀ a, r = .ok a → Q a) :
    K.Holds (settle r : Async σ Ans ε α) Q s := by
  cases r with
  | error e => trivial
  | ok a => exact h a rfl

theorem holds_throwIf {c : Prop} [Decidable c] {e : ε} {Q : Unit → Prop} (h : ¬ c → Q ()) :
    K.Holds (throwIf c e : Async σ Ans ε Unit) Q s := by
  unfold throwIf
  split
  · exact holds_throw
  · next hc => exact holds_pure (h hc)

theorem holds_call {op : Op} {Q : Ans op → Prop} (hop : K.Asks op) (h : ∀ a, K.Tells op a → Q a) :
    K.Holds (call op : Async σ Ans ε _) Q s :=
  ⟨hop, fun _ _ _ hr => holds_settle fun a ha => h a (hr a ha)⟩

theorem holds_update {f : σ → σ} {Q : Unit → Prop} (hf : K.Inv (f s)) (h : Q ()) :
    K.Holds (update f : Async σ Ans ε Unit) Q s := ⟨hf, h⟩

theorem holds_store {k : σ → Async σ Ans ε β} (h : K.Holds (k s) R s) :
    K.Holds (store >>= k) R s := h

/-- The rule of consequence. -/
theorem Holds.mono {p : Async σ Ans ε α} (h : K.Holds p Q s) (hQ : ∀ a, Q a → Q' a) :
    K.Holds p Q' s := by
  induction p generalizing s with
  | ret a => exact hQ a h
  | fail e => trivial
  | read k ih => exact ih s h
  | write t k ih => exact ⟨h.1, ih h.2⟩
  | await op k ih => exact ⟨h.1, fun r t ht hr => ih r (h.2 r t ht hr)⟩

/-- What follows finds the invariant. -/
theorem Holds.bind {p : Async σ Ans ε α} {f : α → Async σ Ans ε β} (hp : K.Holds p Q s)
    (hs : K.Inv s) (hf : ∀ a t, K.Inv t → Q a → K.Holds (f a) R t) :
    K.Holds (p >>= f) R s := by
  rw [bind_def]
  induction p generalizing s with
  | ret a => exact hf a s hs hp
  | fail e => trivial
  | read k ih => exact ih s hp hs
  | write t k ih => exact ⟨hp.1, ih hp.2 hp.1⟩
  | await op k ih => exact ⟨hp.1, fun r t ht hr => ih r (hp.2 r t ht hr) ht⟩

theorem Holds.tryCatch {p : Async σ Ans ε α} {h : ε → Async σ Ans ε α} (hp : K.Holds p Q s)
    (hs : K.Inv s) (hh : ∀ e t, K.Inv t → K.Holds (h e) Q t) :
    K.Holds (tryCatch p h) Q s := by
  rw [tryCatch_def]
  induction p generalizing s with
  | ret a => exact hp
  | fail e => exact hh e s hs
  | read k ih => exact ih s hp hs
  | write t k ih => exact ⟨hp.1, ih hp.2 hp.1⟩
  | await op k ih => exact ⟨hp.1, fun r t ht hr => ih r (hp.2 r t ht hr) ht⟩

end Rules

/-! ## Functions that start anywhere -/

/-- The function keeps the contract wherever it starts. -/
def Upholds (p : Async σ Ans ε α) (Q : α → Prop) : Prop := ∀ s, K.Inv s → K.Holds p Q s

namespace Upholds

variable {K} {Q Q' : α → Prop} {R : β → Prop} {p : Async σ Ans ε α}

theorem pure {a : α} (h : Q a) : K.Upholds (Pure.pure a : Async σ Ans ε α) Q :=
  fun _ _ => holds_pure h

theorem throw {e : ε} : K.Upholds (throw e : Async σ Ans ε α) Q := fun _ _ => holds_throw

theorem settle {r : Except ε α} (h : ∀ a, r = .ok a → Q a) :
    K.Upholds (Async.settle r : Async σ Ans ε α) Q := fun _ _ => holds_settle h

theorem throwIf {c : Prop} [Decidable c] {e : ε} :
    K.Upholds (Async.throwIf c e : Async σ Ans ε Unit) fun _ => ¬ c :=
  fun _ _ => holds_throwIf fun h => h

theorem call {op : Op} (hop : K.Asks op) :
    K.Upholds (Async.call op : Async σ Ans ε (Ans op)) (K.Tells op) :=
  fun _ _ => holds_call hop fun _ h => h

theorem store {k : σ → Async σ Ans ε β} (h : ∀ s, K.Inv s → K.Upholds (k s) R) :
    K.Upholds (Async.store >>= k) R := fun s hs => holds_store (h s hs s hs)

theorem update {f : σ → σ} (hf : ∀ s, K.Inv s → K.Inv (f s)) :
    K.Upholds (Async.update f : Async σ Ans ε Unit) fun _ => True :=
  fun s hs => holds_update (hf s hs) trivial

theorem bind {f : α → Async σ Ans ε β} (hp : K.Upholds p Q)
    (hf : ∀ a, Q a → K.Upholds (f a) R) : K.Upholds (p >>= f) R :=
  fun s hs => (hp s hs).bind hs fun a t ht ha => hf a ha t ht

theorem tryCatch {f : ε → Async σ Ans ε α} (hp : K.Upholds p Q) (hf : ∀ e, K.Upholds (f e) Q) :
    K.Upholds (tryCatch p f) Q := fun s hs => (hp s hs).tryCatch hs fun e t ht => hf e t ht

theorem ite {c : Prop} [Decidable c] {q : Async σ Ans ε α} (hp : K.Upholds p Q)
    (hq : K.Upholds q Q) : K.Upholds (if c then p else q) Q := by
  split
  · exact hp
  · exact hq

theorem mono (hp : K.Upholds p Q) (hQ : ∀ a, Q a → Q' a) : K.Upholds p Q' :=
  fun s hs => (hp s hs).mono hQ

end Upholds

/-! ## Runs -/

/-- Answers and allowed events keep the contract. -/
structure Kept (P : Program σ Ans ε Evt Ω Tag) (Allowed : Evt → Prop) : Prop where
  answer : ∀ {op o s r t}, K.Asks op → K.Inv s → P.answer op o s = some (r, t) →
    K.Inv t ∧ ∀ a, r = .ok a → K.Tells op a
  event : ∀ {e s t next}, Allowed e → K.Inv s → P.event e s = some (t, next) →
    K.Inv t ∧ ∀ tag p, next = some (tag, p) → K.Keeps p t

/-- A suspended function can go on. -/
def TaskOk (T : Task σ Ans ε Tag) : Prop :=
  K.Asks T.op ∧ match T.reply with
    | none => ∀ r t, K.Inv t → (∀ a, r = .ok a → K.Tells T.op a) → K.Keeps (T.next r) t
    | some r => ∀ t, K.Inv t → K.Keeps (T.next r) t

structure PoolOk (c : Pool σ Ans ε Tag) : Prop where
  inv : K.Inv c.store
  tasks : ∀ T ∈ c.tasks, K.TaskOk T

section Sound

variable {K} {P : Program σ Ans ε Evt Ω Tag} {Allowed : Evt → Prop} {c c' : Pool σ Ans ε Tag}

theorem Holds.runSegment (tag : Tag) {p : Async σ Ans ε Unit} {s : σ} (hp : K.Keeps p s)
    (hs : K.Inv s) : K.Inv (Program.runSegment tag p s).1 ∧
      ∀ T, (Program.runSegment tag p s).2 = some T → K.TaskOk T := by
  induction p generalizing s with
  | ret a => exact ⟨hs, nofun⟩
  | fail e => exact ⟨hs, nofun⟩
  | read k ih => exact ih s hp hs
  | write t k ih => exact ih hp.2 hp.1
  | await op k ih =>
    refine ⟨hs, ?_⟩
    rintro _ ⟨⟩
    exact hp

theorem PoolOk.step {l : Label Evt Ω} (hP : K.Kept P Allowed) (hc : K.PoolOk c)
    (hl : ∀ e, l = .event e → Allowed e) (hstep : P.step c l = some c') : K.PoolOk c' := by
  cases l with
  | event e =>
    have halive : ∀ T ∈ c.tasks.filter fun T => !P.kills e T.tag, K.TaskOk T :=
      fun T hT => hc.tasks T (List.mem_of_mem_filter hT)
    simp only [Program.step] at hstep
    split at hstep
    · cases hstep
    · next s hev =>
      cases hstep
      exact ⟨(hP.event (hl e rfl) hc.inv hev).1, halive⟩
    · next s tag p hev =>
      cases hstep
      obtain ⟨hs, hp⟩ := hP.event (hl e rfl) hc.inv hev
      obtain ⟨hs', hT⟩ := (hp tag p rfl).runSegment tag hs
      refine ⟨hs', fun T hmem => ?_⟩
      rcases List.mem_append.1 hmem with hmem | hmem
      · exact halive T hmem
      · exact hT T (Option.mem_toList.1 hmem)
  | answer n o =>
    simp only [Program.step] at hstep
    split at hstep
    · next tag op next htask =>
      obtain ⟨hop, hnext⟩ := hc.tasks _ (List.mem_of_getElem? htask)
      split at hstep
      · cases hstep
      · next r s hans =>
        cases hstep
        obtain ⟨hs, hr⟩ := hP.answer hop hc.inv hans
        refine ⟨hs, fun T hmem => ?_⟩
        rcases List.mem_or_eq_of_mem_set hmem with hmem | rfl
        · exact hc.tasks T hmem
        · exact ⟨hop, fun t ht => hnext r t ht hr⟩
    · cases hstep
  | resume n =>
    simp only [Program.step] at hstep
    split at hstep
    · next tag op next r htask =>
      obtain ⟨-, hnext⟩ := hc.tasks _ (List.mem_of_getElem? htask)
      obtain ⟨hs', hT⟩ := (hnext c.store hc.inv).runSegment tag hc.inv
      split at hstep <;> next hseg =>
        cases hstep
        rw [hseg] at hs' hT
        refine ⟨hs', fun T hmem => ?_⟩
        first
        | exact hc.tasks T (List.mem_of_mem_eraseIdx hmem)
        | rcases List.mem_or_eq_of_mem_set hmem with hmem | rfl
          · exact hc.tasks T hmem
          · exact hT _ rfl
    · cases hstep

/-- Every run whose events are allowed keeps the contract. -/
theorem run (hP : K.Kept P Allowed) {ls : List (Label Evt Ω)} (hc : K.PoolOk c)
    (hls : ∀ e, .event e ∈ ls → Allowed e) (hrun : P.system.run c ls = some c') : K.PoolOk c' := by
  have hall : P.system.Meets (fun _ l => ∀ e, l = Label.event e → Allowed e) c ls := by
    refine System.meets_of_forall (C := fun l => ∀ e, l = Label.event e → Allowed e) ?_ c
    rintro _ hl e rfl
    exact hls e hl
  exact System.run_invariant (I := K.PoolOk)
    (fun _ _ _ hc hl hstep => PoolOk.step hP hc hl hstep) hc hall hrun

/-- In such a run, every call is asked for as the contract says. -/
theorem meets_asks (hP : K.Kept P Allowed) {ls : List (Label Evt Ω)} (hc : K.PoolOk c)
    (hls : ∀ e, .event e ∈ ls → Allowed e) :
    P.system.Meets (Program.Allows fun _ a => (∀ e, a = .event e → Allowed e) ∧
      ∀ op o, a = .answer op o → K.Asks op) c ls := by
  induction ls generalizing c with
  | nil => trivial
  | cons l ls ih =>
    have hl : ∀ e, l = .event e → Allowed e := by
      rintro e rfl
      exact hls e List.mem_cons_self
    refine ⟨fun a ha => ⟨?_, ?_⟩, fun c' hstep => ?_⟩
    · rintro e rfl
      exact hl e (Program.action_event ha)
    · rintro op o rfl
      obtain ⟨T, hT, rfl⟩ := Program.action_answer ha
      exact (hc.tasks T hT).1
    · exact ih (PoolOk.step hP hc hl hstep) fun e he => hls e (List.mem_cons_of_mem l he)

/-- A pool with no suspended function. -/
theorem PoolOk.idle {s : σ} (hs : K.Inv s) : K.PoolOk (⟨s, []⟩ : Pool σ Ans ε Tag) :=
  ⟨hs, fun _ h => absurd h List.not_mem_nil⟩

end Sound

/-! ## Functions whose calls name their caller -/

/-- A contract for each caller, as one. -/
theorem Holds.tagged {σ Op Tag : Type} {Ans : Op → Type} {ε α : Type} {K : Contract σ Ans}
    {W : Contract σ fun x : Tag × Op => Ans x.2} {tag : Tag} {p : Async σ Ans ε α} {Q : α → Prop}
    {s : σ} (hinv : ∀ s, W.Inv s ↔ K.Inv s) (hasks : ∀ op, K.Asks op → W.Asks (tag, op))
    (htells : ∀ op a, W.Tells (tag, op) a → K.Tells op a) (h : K.Holds p Q s) :
    W.Holds (p.tagged tag) Q s := by
  induction p generalizing s with
  | ret a => exact h
  | fail e => trivial
  | read k ih => exact ih s h
  | write t k ih => exact ⟨(hinv t).2 h.1, ih h.2⟩
  | await op k ih =>
    refine ⟨hasks op h.1, fun r t ht hr => ih r (h.2 r t ((hinv t).1 ht) ?_)⟩
    exact fun a ha => htells op a (hr a ha)

/-- The contract that says nothing. -/
def nothing (σ : Type) {Op : Type} (Ans : Op → Type) : Contract σ Ans where
  Inv _ := True
  Asks _ := True
  Tells _ _ := True

theorem holds_nothing {σ Op : Type} {Ans : Op → Type} {ε α : Type} {p : Async σ Ans ε α} {s : σ} :
    (nothing σ Ans).Keeps p s := by
  induction p generalizing s with
  | ret a => trivial
  | fail e => trivial
  | read k ih => exact ih s
  | write t k ih => exact ⟨trivial, ih⟩
  | await op k ih => exact ⟨trivial, fun r t _ _ => ih r⟩

/-! ## Components -/

section Via

variable {τ ι A : Type} {σ Op : ι → Type} {Own : A → Type} {Ans : ∀ i, Op i → Type} {ε α : Type}

/-- The contract of a component is part of the contract of the whole. -/
structure Within (i : ι) (V : View τ (σ i)) (K : Contract (σ i) (Ans i))
    (W : Contract τ (FamilyAns Own Ans)) : Prop where
  get : ∀ {s t}, W.Inv s → V.get s = some t → K.Inv t
  set : ∀ {s t u}, W.Inv s → V.get s = some t → K.Inv u → W.Inv (V.set u s)
  asks : ∀ {op}, K.Asks op → W.Asks (.inr ⟨i, op⟩)
  tells : ∀ {op a}, W.Tells (.inr ⟨i, op⟩) a → K.Tells op a

/-- What a function of the component keeps, it keeps in the whole. -/
theorem Holds.via {i : ι} {V : View τ (σ i)} {K : Contract (σ i) (Ans i)}
    {W : Contract τ (FamilyAns Own Ans)} (hK : Within i V K W) {missing : ε} {Q : α → Prop}
    {p : Async (σ i) (Ans i) ε α} {s : τ} {t : σ i} (hs : W.Inv s) (ht : K.Inv t)
    (hget : ∀ u, V.get s = some u → u = t) (hp : K.Holds p Q t) :
    W.Holds (p.via V missing : Async τ (FamilyAns Own Ans) ε α) Q s := by
  induction p generalizing s t with
  | ret a => exact hp
  | fail e => trivial
  | read k ih =>
    simp only [Async.via, Holds]
    split
    · next u hu =>
      cases hget u hu
      exact ih t hs ht hget hp
    · trivial
  | write u k ih =>
    simp only [Async.via, Holds]
    obtain ⟨hu, hp⟩ := hp
    cases hv : V.get s with
    | none =>
      rw [V.set_none hv]
      exact ⟨hs, ih hs hu (fun u' hu' => by cases hv.symm.trans hu') hp⟩
    | some v =>
      have hset := hK.set hs hv hu
      refine ⟨hset, ih hset hu (fun u' hu' => ?_) hp⟩
      exact Option.some.inj (hu'.symm.trans (V.get_set hv))
  | await op k ih =>
    simp only [Async.via, Holds]
    obtain ⟨hop, hp⟩ := hp
    refine ⟨hK.asks hop, fun r s' hs' hr => ?_⟩
    -- a component that is not there any more is taken to be as it was
    have ht' : K.Inv ((V.get s').getD t) := by
      cases hv : V.get s' with
      | none => exact ht
      | some v => exact hK.get hs' hv
    refine ih r hs' ht' (fun u hu => ?_) (hp r _ ht' fun a ha => hK.tells (hr a ha))
    rw [hu, Option.getD_some]

/-- A function that reads its store at once ends where the component is not there. -/
theorem holds_missing {i : ι} {V : View τ (σ i)} {W : Contract τ (FamilyAns Own Ans)}
    {missing : ε} {Q : α → Prop} {f : σ i → Async (σ i) (Ans i) ε α} {s : τ} (h : V.get s = none) :
    W.Holds ((Async.read f).via V missing : Async τ (FamilyAns Own Ans) ε α) Q s := by
  simp only [Async.via, Holds, h]

end Via

end Contract

end CotServer
