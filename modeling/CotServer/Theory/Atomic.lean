import CotServer.Theory.Interleaving

/-!
# Functions that run one after another

`P.handle` takes an event and runs the function that it starts to its end, with its operations
answered one after another. `P.atomic` is the system of such steps. Each of them is a run of the
program in which nothing else happens in the meantime (`handle_run`), so that what is shown for all
interleavings holds here too.
-/

namespace CotServer

open Async

namespace Program

variable {σ Op : Type} {Ans : Op → Type} {ε Evt Ω Tag : Type}
variable (P : Program σ Ans ε Evt Ω Tag)

/-- An event, and the run of its function to the end; an event without one returns at once. -/
def handle (s : σ) (e : Evt) (os : List Ω) : Option (Except ε Unit × σ) :=
  match P.event e s with
  | none => none
  | some (t, none) => some (.ok (), t)
  | some (t, some (_, p)) => p.exec P.answer os t

/-- Events are handled one after another. -/
def atomic : System σ (Evt × List Ω) := ⟨fun s l => (P.handle s l.1 l.2).map (·.2)⟩

/-- The answers that the oracle can give. -/
def answers (op : Op) (s : σ) (a : Except ε (Ans op)) (t : σ) : Prop :=
  ∃ o, P.answer op o s = some (a, t)

variable {P} {s s' : σ} {e : Evt} {os : List Ω} {r : Except ε Unit}

/-- What handling an event does. -/
theorem handle_cases (h : P.handle s e os = some (r, s')) :
    (P.event e s = some (s', none) ∧ r = .ok ()) ∨
      ∃ t tag p, P.event e s = some (t, some (tag, p)) ∧ p.Runs P.answers t r s' := by
  unfold handle at h
  split at h
  · cases h
  · next t hevent =>
    cases h
    exact .inl ⟨hevent, rfl⟩
  · next t tag p hevent => exact .inr ⟨t, tag, p, hevent, runs_of_exec h⟩

theorem atomic_step {l : Evt × List Ω} (h : P.atomic.step s l = some s') :
    ∃ r, P.handle s l.1 l.2 = some (r, s') := by
  obtain ⟨⟨r, t⟩, hhandle, rfl⟩ := Option.map_eq_some_iff.1 h
  exact ⟨r, hhandle⟩

/-! ## Steps as runs of the pool -/

/-- A function alone in the pool runs to its end. -/
theorem exec_run (tag : Tag) {p : Async σ Ans ε Unit} (h : p.exec P.answer os s = some (r, s')) :
    ∃ ls, P.system.run ⟨(runSegment tag p s).1, (runSegment tag p s).2.toList⟩ ls =
      some ⟨s', []⟩ := by
  induction p generalizing os s with
  | ret a =>
    cases h
    exact ⟨[], rfl⟩
  | fail e =>
    cases h
    exact ⟨[], rfl⟩
  | read k ih => exact ih s h
  | write t k ih => exact ih h
  | await op k ih =>
    cases os with
    | nil => cases h
    | cons o os =>
      rw [exec] at h
      split at h
      · cases h
      · next a t hans =>
        obtain ⟨ls, hls⟩ := ih a h
        refine ⟨.answer 0 o :: .resume 0 :: ls, ?_⟩
        have hanswer : P.system.step ⟨s, [⟨tag, op, k, none⟩]⟩ (.answer 0 o) =
            some ⟨t, [⟨tag, op, k, some a⟩]⟩ := by
          simp [system, step, hans]
        have hresume : P.system.step ⟨t, [⟨tag, op, k, some a⟩]⟩ (.resume 0) =
            some ⟨(runSegment tag (k a) t).1, (runSegment tag (k a) t).2.toList⟩ := by
          simp only [system, step, List.getElem?_cons_zero]
          rcases runSegment tag (k a) t with ⟨u, _ | task⟩
          · rfl
          · rfl
        change P.system.run ⟨s, [⟨tag, op, k, none⟩]⟩ _ = _
        rw [System.run_cons, hanswer, Option.bind_some, System.run_cons, hresume, Option.bind_some,
          hls]

/-- Handling an event is a run between two pools in which no function is suspended. -/
theorem handle_run (h : P.handle s e os = some (r, s')) :
    ∃ ls, P.system.run ⟨s, []⟩ (.event e :: ls) = some ⟨s', []⟩ := by
  unfold handle at h
  split at h
  · cases h
  · next t hevent =>
    cases h
    exact ⟨[], by simp [System.run_cons, system, step, hevent]⟩
  · next t tag p hevent =>
    obtain ⟨ls, hls⟩ := exec_run tag h
    refine ⟨ls, ?_⟩
    have hstep : P.system.step ⟨s, []⟩ (.event e) =
        some ⟨(runSegment tag p t).1, (runSegment tag p t).2.toList⟩ := by
      simp [system, step, hevent]
    rw [System.run_cons, hstep, Option.bind_some, hls]

end Program

end CotServer
