import CotServer.Theory.Requests
import CotServer.Theory.Serial
import Mathlib.Algebra.BigOperators.Group.List.Basic
import Mathlib.Algebra.Ring.Nat

/-!
# Functions started together

`startAll f` starts a function for each input, one after another, and `Program.together` interleaves
them at their awaits. How each of them ends is recorded, and `Pool.promiseAll` is what has become of
the `Promise.all` of them: it throws with the first that throws, and returns when all have returned.

A function `Adds` an outcome when it only calls and then throws, or adds a value to the store as its
last step. Such functions come to their ends in every order (`length_eq`, `exists_run_to_end`), and
then the store holds the values of those that have not thrown (`store_eq`), whatever is thrown.
-/

namespace CotServer

open Async

namespace Async

variable {σ Op ι R : Type} {Ans : Op → Type} {ε α β : Type}

/-- The function only calls, and ends with `r` when its calls find `answer`. -/
def Gives (answer : (op : Op) → Except ε (Ans op)) (r : Except ε α) : Async σ Ans ε α → Prop
  | ret a => r = .ok a
  | fail e => r = .error e
  | read _ => False
  | write .. => False
  | await op k => (k (answer op)).Gives answer r

/-- The function only calls, and throws, or adds a value to the store as its last step. -/
def Adds (answer : (op : Op) → Except ε (Ans op)) (add : σ → R → σ) (r : Except ε R) :
    Async σ Ans ε Unit → Prop
  | ret _ => False
  | fail e => r = .error e
  | read k => ∃ v, r = .ok v ∧ ∀ s, k s = write (add s v) (ret ())
  | write .. => False
  | await op k => (k (answer op)).Adds answer add r

section

variable {answer : (op : Op) → Except ε (Ans op)} {add : σ → R → σ} {p : Async σ Ans ε α}

theorem Gives.pure (a : α) : (Pure.pure a : Async σ Ans ε α).Gives answer (.ok a) := rfl

variable (answer) in
theorem Gives.call (op : Op) : (call op : Async σ Ans ε _).Gives answer (answer op) := by
  unfold Async.call
  cases h : answer op <;> simp [Gives, h, settle]

theorem Gives.bind {r : Except ε α} {r' : Except ε β} {f : α → Async σ Ans ε β}
    (hp : p.Gives answer r) (herror : ∀ e, r = .error e → r' = .error e)
    (hok : ∀ a, r = .ok a → (f a).Gives answer r') : (p >>= f).Gives answer r' := by
  rw [bind_def]
  induction p with
  | ret a => exact hok a hp
  | fail e => exact herror e hp
  | read k => exact hp.elim
  | write s k => exact hp.elim
  | await op k ih => exact ih (answer op) hp

theorem Gives.tryCatch {r r' : Except ε α} {h : ε → Async σ Ans ε α} (hp : p.Gives answer r)
    (hok : ∀ a, r = .ok a → r' = .ok a) (herror : ∀ e, r = .error e → (h e).Gives answer r') :
    (tryCatch p h).Gives answer r' := by
  rw [tryCatch_def]
  induction p with
  | ret a => exact hok a hp
  | fail e => exact herror e hp
  | read k => exact hp.elim
  | write s k => exact hp.elim
  | await op k ih => exact ih (answer op) hp

theorem Adds.bind {r : Except ε α} {r' : Except ε R} {f : α → Async σ Ans ε Unit}
    (hp : p.Gives answer r) (herror : ∀ e, r = .error e → r' = .error e)
    (hok : ∀ a, r = .ok a → (f a).Adds answer add r') : (p >>= f).Adds answer add r' := by
  rw [bind_def]
  induction p with
  | ret a => exact hok a hp
  | fail e => exact herror e hp
  | read k => exact hp.elim
  | write s k => exact hp.elim
  | await op k ih => exact ih (answer op) hp

end

/-- `p` as the function of `i`, and the record of how it ends. -/
def promise (i : ι) (p : Async σ Ans ε Unit) :
    Async (Recorded σ (ι × Except ε Unit)) (fun x : ι × Op => Ans x.2) ε Unit := do
  let r ← tryCatch (do let _ ← (p.tagged i).recorded; return .ok ()) fun e => return .error e
  update fun s => { s with record := s.record ++ [(i, r)] }

/-- How many calls are still to come when they find `answer`; the store is not read before. -/
def callsLeft (answer : (op : Op) → Except ε (Ans op)) : Async σ Ans ε α → Nat
  | ret _ => 0
  | fail _ => 0
  | read _ => 0
  | write .. => 0
  | await op k => (k (answer op)).callsLeft answer + 1

end Async

variable {σ Op ι R : Type} {Ans : Op → Type} {ε : Type}

/-- A suspended function of an input. -/
abbrev PromiseTask (σ : Type) {Op : Type} (Ans : Op → Type) (ε ι : Type) :=
  Task (Recorded σ (ι × Except ε Unit)) (fun x : ι × Op => Ans x.2) ε ι

/-- The pool of the functions of the inputs `ι`, and how those that have ended did so. -/
abbrev PromisePool (σ : Type) {Op : Type} (Ans : Op → Type) (ε ι : Type) :=
  Pool (Recorded σ (ι × Except ε Unit)) (fun x : ι × Op => Ans x.2) ε ι

/-- The functions of the inputs, interleaved; nothing else happens. -/
def Program.together (answer : ι → (op : Op) → Except ε (Ans op)) :
    Program (Recorded σ (ι × Except ε Unit)) (fun x : ι × Op => Ans x.2) ε Empty Unit ι where
  event e := e.elim
  kills e := e.elim
  answer x _ s := some (answer x.1 x.2, s)

/-- Starts the functions one after another, each up to its first await. -/
def startAll (f : ι → Async σ Ans ε Unit) : List ι → PromisePool σ Ans ε ι → PromisePool σ Ans ε ι
  | [], c => c
  | i :: is, c =>
    let (s, t) := Program.runSegment i ((f i).promise i) c.store
    startAll f is ⟨s, c.tasks ++ t.toList⟩

/-- The first error that was thrown. -/
def firstError (record : List (ι × Except ε Unit)) : Option ε :=
  record.findSome? fun x =>
    match x.2 with
    | .ok _ => none
    | .error e => some e

/-- `Promise.all` of the functions, once it is settled. -/
def Pool.promiseAll (c : PromisePool σ Ans ε ι) : Option (Except ε Unit) :=
  match firstError c.store.record with
  | some e => some (.error e)
  | none => if c.tasks.isEmpty then some (.ok ()) else none

namespace Together

variable {answer : ι → (op : Op) → Except ε (Ans op)} {add : σ → R → σ} {outcome : ι → Except ε R}
variable {f : ι → Async σ Ans ε Unit}

/-- The store after the function of `i` has ended with the outcome `r`. -/
def ended (add : σ → R → σ) (i : ι) (r : Except ε R) (s : Recorded σ (ι × Except ε Unit)) :
    Recorded σ (ι × Except ε Unit) where
  store :=
    match r with
    | .ok v => add s.store v
    | .error _ => s.store
  record := s.record ++ [(i, r.map fun _ => ())]

/-- The awaits that are still to come. -/
def awaitsLeft (answer : ι → (op : Op) → Except ε (Ans op))
    (p : Async (Recorded σ (ι × Except ε Unit)) (fun x : ι × Op => Ans x.2) ε Unit) : Nat :=
  p.callsLeft fun x : ι × Op => answer x.1 x.2

/-- A segment of a function that adds an outcome reaches another await, or the end. -/
theorem runSegment_promise {i : ι} {r : Except ε R} {p : Async σ Ans ε Unit}
    (hp : p.Adds (answer i) add r) (s : Recorded σ (ι × Except ε Unit)) :
    (∃ op k, p = await op k ∧ Program.runSegment i (p.promise i) s =
        (s, some { tag := i, op := (i, op), next := fun a => (k a).promise i })) ∨
      awaitsLeft answer (p.promise i) = 0 ∧
        Program.runSegment i (p.promise i) s = (ended add i r s, none) := by
  cases p with
  | ret a => exact hp.elim
  | fail e =>
    cases hp
    exact .inr ⟨rfl, rfl⟩
  | read k =>
    obtain ⟨v, rfl, hk⟩ := hp
    obtain rfl : k = fun s => write (add s v) (ret ()) := funext hk
    exact .inr ⟨rfl, rfl⟩
  | write s k => exact hp.elim
  | await op k => exact .inl ⟨op, k, rfl, rfl⟩

/-! ## Tasks -/

variable (answer add outcome) in
/-- A task that is on its way to the outcome of its input, with the answers that are given. -/
inductive Waiting : PromiseTask σ Ans ε ι → Prop
  | mk (i : ι) (op : Op) (k : Except ε (Ans op) → Async σ Ans ε Unit)
      (reply : Option (Except ε (Ans op)))
      (adds : (k (answer i op)).Adds (answer i) add (outcome i))
      (replied : ∀ r ∈ reply, r = answer i op) :
      Waiting ⟨i, (i, op), fun a => (k a).promise i, reply⟩

/-- The steps of a task that are still to come: two for each await, less the answer it has. -/
def taskSteps (answer : ι → (op : Op) → Except ε (Ans op)) (t : PromiseTask σ Ans ε ι) : Nat :=
  match t.reply with
  | none => 2 * awaitsLeft answer (t.next (answer t.op.1 t.op.2)) + 2
  | some r => 2 * awaitsLeft answer (t.next r) + 1

/-- The steps that are still to come. -/
def stepsLeft (answer : ι → (op : Op) → Except ε (Ans op)) (c : PromisePool σ Ans ε ι) : Nat :=
  (c.tasks.map (taskSteps answer)).sum

theorem taskSteps_pos (t : PromiseTask σ Ans ε ι) : 0 < taskSteps answer t := by
  unfold taskSteps
  split <;> omega

/-- No step is left when no task is. -/
theorem stepsLeft_eq_zero {c : PromisePool σ Ans ε ι} :
    stepsLeft answer c = 0 ↔ c.tasks = [] := by
  constructor
  · intro h
    cases htasks : c.tasks with
    | nil => rfl
    | cons t ts =>
      have hpos : 0 < taskSteps answer t := taskSteps_pos t
      simp only [stepsLeft, htasks, List.map_cons, List.sum_cons] at h
      omega
  · intro h
    simp [stepsLeft, h]

theorem stepsLeft_perm {c : PromisePool σ Ans ε ι} {ts : List (PromiseTask σ Ans ε ι)}
    (h : c.tasks.Perm ts) : stepsLeft answer c = (ts.map (taskSteps answer)).sum :=
  (h.map _).sum_eq

/-! ## What holds of the pool -/

variable (answer add outcome) in
/-- The functions of the inputs `is` have been started: some wait, and the others have ended with
their outcomes, the values of which have been added to `s₀`. -/
structure Invariant (s₀ : σ) (is : List ι) (c : PromisePool σ Ans ε ι) : Prop where
  inputs : (c.tasks.map (·.tag) ++ c.store.record.map (·.1)).Perm is
  waiting : ∀ t ∈ c.tasks, Waiting answer add outcome t
  record : ∀ x ∈ c.store.record, x.2 = (outcome x.1).map fun _ => ()
  store : c.store.store = (c.store.record.filterMap fun x => (outcome x.1).toOption).foldl add s₀

variable {s₀ : σ} {is : List ι} {c c' : PromisePool σ Ans ε ι}

theorem Invariant.nil :
    Invariant answer add outcome s₀ [] (⟨⟨s₀, []⟩, []⟩ : PromisePool σ Ans ε ι) where
  inputs := .refl _
  waiting _ h := by cases h
  record _ h := by cases h
  store := rfl

variable {s : Recorded σ (ι × Except ε Unit)} {i : ι}
variable {t : PromiseTask σ Ans ε ι} {ts ts' : List (PromiseTask σ Ans ε ι)}

/-- The order of the tasks, and that of the inputs, do not matter. -/
theorem Invariant.perm {is' : List ι} (h : Invariant answer add outcome s₀ is ⟨s, ts⟩)
    (htasks : ts'.Perm ts) (his : is.Perm is') : Invariant answer add outcome s₀ is' ⟨s, ts'⟩ where
  inputs := (((htasks.map _).append_right _).trans h.inputs).trans his
  waiting t ht := h.waiting t (htasks.subset ht)
  record := h.record
  store := h.store

theorem Invariant.waits (h : Invariant answer add outcome s₀ is ⟨s, ts⟩)
    (ht : Waiting answer add outcome t) :
    Invariant answer add outcome s₀ (t.tag :: is) ⟨s, t :: ts⟩ where
  inputs := h.inputs.cons t.tag
  waiting u hu := by
    rcases List.mem_cons.1 hu with rfl | hu
    · exact ht
    · exact h.waiting u hu
  record := h.record
  store := h.store

theorem Invariant.ends (h : Invariant answer add outcome s₀ is ⟨s, ts⟩) (i : ι) :
    Invariant answer add outcome s₀ (i :: is) ⟨ended add i (outcome i) s, ts⟩ where
  inputs := by
    simp only [ended, List.map_append, List.map_cons, List.map_nil, ← List.append_assoc]
    exact (List.perm_append_singleton ..).trans (h.inputs.cons i)
  waiting := h.waiting
  record x hx := by
    rcases List.mem_append.1 hx with hx | hx
    · exact h.record x hx
    · rw [List.mem_singleton.1 hx]
  store := by
    have hstore : s.store = _ := h.store
    simp only [ended, List.filterMap_append, List.foldl_append, ← hstore]
    cases hr : outcome i <;> simp [hr, Except.toOption]

/-- The pool without one of its tasks. -/
theorem Invariant.split (h : Invariant answer add outcome s₀ is c)
    (htasks : c.tasks.Perm (t :: ts)) :
    ∃ is', is.Perm (t.tag :: is') ∧ Waiting answer add outcome t ∧
      Invariant answer add outcome s₀ is' ⟨c.store, ts⟩ := by
  refine ⟨ts.map (·.tag) ++ c.store.record.map (·.1), ?_, ?_, .refl _, ?_, h.record, h.store⟩
  · exact h.inputs.symm.trans ((htasks.map _).append_right _)
  · exact h.waiting t (htasks.symm.subset List.mem_cons_self)
  · exact fun u hu => h.waiting u (htasks.symm.subset (List.mem_cons_of_mem _ hu))

/-- The function of `i` runs a segment, and the other tasks are `ts`. -/
theorem Invariant.segment {p : Async σ Ans ε Unit} (h : Invariant answer add outcome s₀ is ⟨s, ts⟩)
    (hp : p.Adds (answer i) add (outcome i))
    (hstore : c'.store = (Program.runSegment i (p.promise i) s).1)
    (htasks : c'.tasks.Perm ((Program.runSegment i (p.promise i) s).2.toList ++ ts)) :
    Invariant answer add outcome s₀ (i :: is) c' ∧
      stepsLeft answer c' =
        2 * awaitsLeft answer (p.promise i) + (ts.map (taskSteps answer)).sum := by
  obtain ⟨s', ts'⟩ := c'
  dsimp only at hstore htasks
  subst hstore
  rw [stepsLeft_perm htasks]
  rcases runSegment_promise hp s with ⟨op, k, rfl, hrun⟩ | ⟨hleft, hrun⟩
  · rw [hrun] at htasks ⊢
    have hwaits := h.waits (.mk i op k none hp (by simp))
    exact ⟨hwaits.perm htasks (.refl _), rfl⟩
  · rw [hrun] at htasks ⊢
    exact ⟨(h.ends i).perm htasks (.refl _), by simp [hleft]⟩

/-- The start of the functions. -/
theorem invariant_startAll (hf : ∀ i, (f i).Adds (answer i) add (outcome i)) {started : List ι}
    (h : Invariant answer add outcome s₀ started c) :
    Invariant answer add outcome s₀ (started ++ is) (startAll f is c) := by
  induction is generalizing started c with
  | nil =>
    rw [List.append_nil]
    exact h
  | cons i is ih =>
    have hstart : Invariant answer add outcome s₀ (i :: started)
        ⟨(Program.runSegment i ((f i).promise i) c.store).1,
          c.tasks ++ (Program.runSegment i ((f i).promise i) c.store).2.toList⟩ :=
      (h.segment (hf i) rfl List.perm_append_comm).1
    rw [List.append_cons]
    exact ih (hstart.perm (.refl _) (List.perm_append_singleton i started).symm)

/-- A step of the functions. -/
theorem invariant_step {l : Label Empty Unit} (h : Invariant answer add outcome s₀ is c)
    (hstep : (Program.together answer).step c l = some c') :
    Invariant answer add outcome s₀ is c' ∧ stepsLeft answer c' + 1 = stepsLeft answer c := by
  cases l with
  | event e => exact e.elim
  | answer j o =>
    obtain ⟨t, r, ts, -, hreply, htasks, hans, htasks'⟩ := Program.step_answer hstep
    obtain ⟨is', his, hwaiting, hrest⟩ := h.split htasks
    obtain ⟨i, op, k, _ | _, hadds, -⟩ := hwaiting
    · obtain ⟨store', tasks'⟩ := c'
      cases hans
      have hwaits := hrest.waits (.mk i op k (some (answer i op)) hadds (by simp))
      refine ⟨hwaits.perm htasks' his.symm, ?_⟩
      rw [stepsLeft_perm htasks, stepsLeft_perm htasks']
      simp only [List.map_cons, List.sum_cons, taskSteps]
      omega
    · cases hreply
  | resume j =>
    obtain ⟨t, r, ts, hreply, htasks, hstore, htasks'⟩ := Program.step_resume hstep
    obtain ⟨is', his, hwaiting, hrest⟩ := h.split htasks
    obtain ⟨i, op, k, reply, hadds, hreplied⟩ := hwaiting
    obtain rfl := hreplied r hreply
    obtain rfl : reply = some (answer i op) := hreply
    obtain ⟨hinv, hleft⟩ := hrest.segment hadds hstore htasks'
    refine ⟨hinv.perm (.refl _) his.symm, ?_⟩
    rw [hleft, stepsLeft_perm htasks]
    simp only [List.map_cons, List.sum_cons, taskSteps]
    omega

/-- As long as a function waits, a step is possible. -/
theorem exists_step (h : c.tasks ≠ []) :
    ∃ l c', (Program.together answer).system.step c l = some c' := by
  cases htasks : c.tasks with
  | nil => exact absurd htasks h
  | cons t ts =>
    obtain ⟨i, op, next, _ | r⟩ := t
    · refine ⟨.answer 0 (), ⟨c.store, ⟨i, op, next, some (answer op.1 op.2)⟩ :: ts⟩, ?_⟩
      simp [Program.system, Program.step, Program.together, htasks]
    · cases hrun : Program.runSegment i (next r) c.store with
      | mk s u =>
        cases u with
        | none =>
          refine ⟨.resume 0, ⟨s, ts⟩, ?_⟩
          simp [Program.system, Program.step, htasks, hrun]
        | some u =>
          refine ⟨.resume 0, ⟨s, u :: ts⟩, ?_⟩
          simp [Program.system, Program.step, htasks, hrun]

/-! ## Runs -/

/-- The pool of functions that have just been started. -/
theorem invariant_start (hf : ∀ i, (f i).Adds (answer i) add (outcome i)) (s₀ : σ) (is : List ι) :
    Invariant answer add outcome s₀ is (startAll f is ⟨⟨s₀, []⟩, []⟩) :=
  invariant_startAll hf .nil

theorem invariant_run {ls : List (Label Empty Unit)} (h : Invariant answer add outcome s₀ is c)
    (hrun : (Program.together answer).system.run c ls = some c') :
    Invariant answer add outcome s₀ is c' :=
  System.run_invariant (C := fun _ _ => True) (I := Invariant answer add outcome s₀ is)
    (fun _ _ _ hI _ hstep => (invariant_step hI hstep).1) h (System.meets_true c ls) hrun

/-- In whatever order the functions go on, they take the same number of steps. -/
theorem length_eq {ls : List (Label Empty Unit)} (h : Invariant answer add outcome s₀ is c)
    (hrun : (Program.together answer).system.run c ls = some c') :
    ls.length + stepsLeft answer c' = stepsLeft answer c :=
  System.run_length (I := Invariant answer add outcome s₀ is) (m := stepsLeft answer)
    (fun _ _ _ hI hstep => invariant_step hI hstep) h hrun

/-- All functions can come to their ends. -/
theorem exists_run_to_end (h : Invariant answer add outcome s₀ is c) :
    ∃ ls c', (Program.together answer).system.run c ls = some c' ∧ c'.tasks = [] := by
  obtain ⟨ls, c', hrun, hend⟩ := System.exists_run_to_end (M := (Program.together answer).system)
    (I := Invariant answer add outcome s₀ is) (m := stepsLeft answer)
    (fun _ _ _ hI hstep => invariant_step hI hstep)
    (fun _ _ hleft => exists_step fun htasks => hleft (stepsLeft_eq_zero.2 htasks)) h
  exact ⟨ls, c', hrun, stepsLeft_eq_zero.1 hend⟩

/-- At the end the store holds the values of the functions that have not thrown. -/
theorem store_eq (h : Invariant answer add outcome s₀ is c) (hend : c.tasks = []) :
    ∃ order : List ι, order.Perm is ∧
      c.store.store = (order.filterMap fun i => (outcome i).toOption).foldl add s₀ := by
  refine ⟨c.store.record.map (·.1), ?_, ?_⟩
  · have hinputs := h.inputs
    rwa [hend] at hinputs
  · rw [h.store, List.filterMap_map]
    rfl

/-- What has been thrown is the outcome of one of the functions. -/
theorem exists_of_firstError (h : Invariant answer add outcome s₀ is c) {e : ε}
    (he : firstError c.store.record = some e) : ∃ i ∈ is, outcome i = .error e := by
  obtain ⟨x, hx, herror⟩ := List.exists_of_findSome?_eq_some he
  refine ⟨x.1, h.inputs.subset (List.mem_append_right _ (List.mem_map_of_mem hx)), ?_⟩
  rw [h.record x hx] at herror
  cases hr : outcome x.1 <;> simp_all [Except.map]

/-- An error of one of the functions has been thrown at the end. -/
theorem firstError_of_end (h : Invariant answer add outcome s₀ is c) (hend : c.tasks = []) {i : ι}
    {e : ε} (hi : i ∈ is) (he : outcome i = .error e) : firstError c.store.record ≠ none := by
  have hinputs := h.inputs
  rw [hend] at hinputs
  obtain ⟨x, hx, rfl⟩ := List.mem_map.1 (hinputs.symm.subset hi)
  intro hnone
  have hok := List.findSome?_eq_none_iff.1 hnone x hx
  rw [h.record x hx, he] at hok
  cases hok

end Together

namespace Pool

variable {c : PromisePool σ Ans ε ι}

theorem promiseAll_ok (h : c.promiseAll = some (.ok ())) :
    firstError c.store.record = none ∧ c.tasks = [] := by
  unfold promiseAll at h
  split at h
  · cases h
  · next herror =>
    split at h
    · next htasks => exact ⟨herror, List.isEmpty_iff.1 htasks⟩
    · cases h

theorem promiseAll_error {e : ε} :
    c.promiseAll = some (.error e) ↔ firstError c.store.record = some e := by
  unfold promiseAll
  split
  · next herror => simp [herror]
  · next herror =>
    rw [herror]
    split <;> simp

/-- When no function waits any more, the promise is settled. -/
theorem promiseAll_of_end (hend : c.tasks = []) : c.promiseAll.isSome := by
  unfold promiseAll
  split
  · rfl
  · rw [hend]
    rfl

end Pool

end CotServer
