import CotServer.Theory.Async
import CotServer.Theory.System

/-!
# Async functions interleaved at their awaits

A `Program` says which events there are, which async function an event starts, and how operations
are answered. Its pool holds the store and the suspended functions (tasks). A step of the pool is
an event together with the first segment of the function it starts, the answer to the operation a
task waits for, or the next segment of a task that has been answered. Answering and resuming are
separate steps, so an answer can be stale when its task goes on, and a process can stop between
the two.

An oracle `Ω` carries the choices of the surroundings, so that a run is replayed from its labels.
-/

namespace CotServer

open Async

/-- Events, the functions they start, and the answers to operations. -/
structure Program (σ : Type) {Op : Type} (Ans : Op → Type) (ε Evt Ω Tag : Type) where
  /-- What an event does to the store, and the function it starts, if any. -/
  event : Evt → σ → Option (σ × Option (Tag × Async σ Ans ε Unit))
  /-- The tasks that an event ends. -/
  kills : Evt → Tag → Bool
  /-- The answer to an operation, under the choices of the oracle. -/
  answer : (op : Op) → Ω → σ → Option (Except ε (Ans op) × σ)

/-- A suspended function: the operation it waits for, and the answer once it is there. -/
structure Task (σ : Type) {Op : Type} (Ans : Op → Type) (ε Tag : Type) where
  tag : Tag
  op : Op
  next : Except ε (Ans op) → Async σ Ans ε Unit
  reply : Option (Except ε (Ans op)) := none

/-- The store and the suspended functions. -/
structure Pool (σ : Type) {Op : Type} (Ans : Op → Type) (ε Tag : Type) where
  store : σ
  tasks : List (Task σ Ans ε Tag) := []

/-- Steps of a pool; a task is named by its position. -/
inductive Label (Evt Ω : Type) where
  | event (e : Evt)
  | answer (i : Nat) (o : Ω)
  | resume (i : Nat)

/-- What a step is about: the event, or the operation answered or resumed. -/
inductive Action {Op : Type} (Ans : Op → Type) (ε Evt Ω : Type) where
  | event (e : Evt)
  | answer (op : Op) (o : Ω)
  | resume (op : Op) (r : Except ε (Ans op))

namespace Program

variable {σ Op : Type} {Ans : Op → Type} {ε Evt Ω Tag : Type}

/-- Runs one segment; the task to suspend when it stops at an await. -/
def runSegment (tag : Tag) (p : Async σ Ans ε Unit) (s : σ) : σ × Option (Task σ Ans ε Tag) :=
  match p.segment s with
  | (.done _, s') => (s', none)
  | (.await op k, s') => (s', some { tag, op, next := k })

variable (P : Program σ Ans ε Evt Ω Tag)

/-- One step of the pool. -/
def step (c : Pool σ Ans ε Tag) : Label Evt Ω → Option (Pool σ Ans ε Tag)
  | .event e =>
    let alive := c.tasks.filter fun t => !P.kills e t.tag
    match P.event e c.store with
    | none => none
    | some (s, none) => some ⟨s, alive⟩
    | some (s, some (tag, p)) =>
      let (s', t) := runSegment tag p s
      some ⟨s', alive ++ t.toList⟩
  | .answer i o =>
    match c.tasks[i]? with
    | some ⟨tag, op, next, none⟩ =>
      match P.answer op o c.store with
      | none => none
      | some (r, s) => some ⟨s, c.tasks.set i ⟨tag, op, next, some r⟩⟩
    | _ => none
  | .resume i =>
    match c.tasks[i]? with
    | some ⟨tag, _, next, some r⟩ =>
      match runSegment tag (next r) c.store with
      | (s', none) => some ⟨s', c.tasks.eraseIdx i⟩
      | (s', some t) => some ⟨s', c.tasks.set i t⟩
    | _ => none

/-- The transition system of the program. -/
def system : System (Pool σ Ans ε Tag) (Label Evt Ω) := ⟨P.step⟩

/-- What a label is about in a given pool. -/
def action (c : Pool σ Ans ε Tag) : Label Evt Ω → Option (Action Ans ε Evt Ω)
  | .event e => some (.event e)
  | .answer i o => (c.tasks[i]?).map fun t => .answer t.op o
  | .resume i => (c.tasks[i]?).bind fun t => t.reply.map (.resume t.op)

/-- A condition on actions and the store before them, as a condition on steps. -/
def Allows (A : σ → Action Ans ε Evt Ω → Prop) (c : Pool σ Ans ε Tag) (l : Label Evt Ω) : Prop :=
  ∀ a ∈ action c l, A c.store a

theorem action_event {c : Pool σ Ans ε Tag} {l : Label Evt Ω} {e : Evt}
    (h : .event e ∈ action c l) : l = .event e := by
  cases l with
  | event e' =>
    cases h
    rfl
  | answer i o =>
    obtain ⟨t, -, h⟩ := Option.map_eq_some_iff.1 h
    cases h
  | resume i =>
    obtain ⟨t, -, h⟩ := Option.bind_eq_some_iff.1 h
    obtain ⟨r, -, h⟩ := Option.map_eq_some_iff.1 h
    cases h

theorem action_answer {c : Pool σ Ans ε Tag} {l : Label Evt Ω} {op : Op} {o : Ω}
    (h : .answer op o ∈ action c l) : ∃ t ∈ c.tasks, t.op = op := by
  cases l with
  | event e => cases h
  | answer i o' =>
    obtain ⟨t, ht, h⟩ := Option.map_eq_some_iff.1 h
    cases h
    exact ⟨t, List.mem_of_getElem? ht, rfl⟩
  | resume i =>
    obtain ⟨t, -, h⟩ := Option.bind_eq_some_iff.1 h
    obtain ⟨r, -, h⟩ := Option.map_eq_some_iff.1 h
    cases h

/-- The events of a run satisfy what is allowed of them. -/
theorem events_of_meets {Q : Evt → Prop} {c c' : Pool σ Ans ε Tag} {ls : List (Label Evt Ω)}
    (hall : P.system.Meets (Allows fun _ a => ∀ e, a = .event e → Q e) c ls)
    (hrun : P.system.run c ls = some c') : ∀ e, .event e ∈ ls → Q e := by
  induction ls generalizing c with
  | nil => exact fun e he => absurd he List.not_mem_nil
  | cons l ls ih =>
    obtain ⟨d, hd, hrun⟩ := Option.bind_eq_some_iff.1 hrun
    intro e he
    rcases List.mem_cons.1 he with rfl | he
    · exact hall.1 _ rfl e rfl
    · exact ih (hall.2 d hd) hrun e he

theorem meets_of_events {Q : Evt → Prop} {ls : List (Label Evt Ω)}
    (h : ∀ e, .event e ∈ ls → Q e) (c : Pool σ Ans ε Tag) :
    P.system.Meets (Allows fun _ a => ∀ e, a = .event e → Q e) c ls := by
  refine (System.meets_of_forall (C := fun l => ∀ e, l = .event e → Q e) ?_ c).mono ?_
  · rintro _ hl e rfl
    exact h e hl
  · rintro c l hl a ha e rfl
    exact hl e (action_event ha)

/-- The next `n` awaits of the task at position `i`, each answered under the choice `o`. -/
def awaits (i : Nat) (o : Ω) : Nat → List (Label Evt Ω)
  | 0 => []
  | n + 1 => .answer i o :: .resume i :: awaits i o n

/-- A run is replayed to see that its actions pass a test. -/
theorem meets_of_checks {b : σ → Action Ans ε Evt Ω → Bool} {c : Pool σ Ans ε Tag}
    {ls : List (Label Evt Ω)}
    (h : P.system.checks (fun c l => (action c l).all (b c.store)) c ls = true) :
    P.system.Meets (Allows fun s a => b s a = true) c ls :=
  (System.meets_of_checks h).mono fun c l hl a ha => by simp_all

variable {P} {c : Pool σ Ans ε Tag}

/-- Where operations have fewer answers, there are fewer runs. -/
theorem run_of_answer {answer : (op : Op) → Ω → σ → Option (Except ε (Ans op) × σ)}
    (hanswer : ∀ op o s r, answer op o s = some r → P.answer op o s = some r)
    {c' : Pool σ Ans ε Tag} {ls : List (Label Evt Ω)}
    (h : ({ P with answer } : Program σ Ans ε Evt Ω Tag).system.run c ls = some c') :
    P.system.run c ls = some c' := by
  refine System.run_mono ?_ h
  intro c l d hstep
  cases l with
  | answer i o =>
    simp only [system, step] at hstep ⊢
    split at hstep
    · split at hstep
      · cases hstep
      · next hans =>
        rw [hanswer _ _ _ _ hans]
        exact hstep
    · cases hstep
  | event e => exact hstep
  | resume i => exact hstep

variable {i : Nat} {task : Task σ Ans ε Tag}
  {r : Except ε (Ans task.op)} {s : σ}

/-- The last segment of a function. -/
theorem step_resume_done {a : Except ε Unit} (htask : c.tasks[i]? = some task)
    (hreply : task.reply = some r) (hseg : (task.next r).segment c.store = (.done a, s)) :
    P.step c (.resume i) = some ⟨s, c.tasks.eraseIdx i⟩ := by
  obtain ⟨tag, op, next, _ | r'⟩ := task
  · cases hreply
  · cases hreply
    simp only [step, htask, runSegment, hseg]

/-- A segment that ends at an await. -/
theorem step_resume_await {op : Op} {k : Except ε (Ans op) → Async σ Ans ε Unit}
    (htask : c.tasks[i]? = some task) (hreply : task.reply = some r)
    (hseg : (task.next r).segment c.store = (.await op k, s)) :
    P.step c (.resume i) = some ⟨s, c.tasks.set i { tag := task.tag, op, next := k }⟩ := by
  obtain ⟨tag, op', next, _ | r'⟩ := task
  · cases hreply
  · cases hreply
    simp only [step, htask, runSegment, hseg]

end Program

end CotServer
