import Mathlib.Data.List.Basic

/-!
# Guarded transition systems

A system is an executable step function: `step s l` is `some s'` where the label `l` is
enabled in `s`. One definition serves to replay a concrete run and to prove a fact of every run.
`Meets C` restricts a run to the steps that satisfy a condition `C` on the state before the step,
and `run_invariant` is the induction over such runs.
-/

namespace CotServer

/-- A guarded transition system with states `S` and labels `L`. -/
structure System (S L : Type*) where
  step : S → L → Option S

namespace System

variable {S L : Type*} (M : System S L)

/-- Replays the labels in order; `none` when one of them is not enabled. -/
def run : S → List L → Option S
  | s, [] => some s
  | s, l :: ls => (M.step s l).bind fun s' => run s' ls

/-- Every step of the run from `s` along the labels satisfies `C` where it is taken. -/
def Meets (C : S → L → Prop) : S → List L → Prop
  | _, [] => True
  | s, l :: ls => C s l ∧ ∀ s', M.step s l = some s' → Meets C s' ls

/-- Replays the labels and tests every step on the way. -/
def checks (b : S → L → Bool) : S → List L → Bool
  | _, [] => true
  | s, l :: ls => b s l && (M.step s l).all fun s' => checks b s' ls

@[simp] theorem run_nil (s : S) : M.run s [] = some s := rfl

theorem run_cons (s : S) (l : L) (ls : List L) :
    M.run s (l :: ls) = (M.step s l).bind fun s' => M.run s' ls := rfl

variable {M}

theorem run_append {s t u : S} {ls ls' : List L} (h : M.run s ls = some t)
    (h' : M.run t ls' = some u) : M.run s (ls ++ ls') = some u := by
  induction ls generalizing s with
  | nil =>
    cases h
    exact h'
  | cons l ls ih =>
    rw [run_cons, Option.bind_eq_some_iff] at h
    obtain ⟨v, hv, h⟩ := h
    rw [List.cons_append, run_cons, hv, Option.bind_some, ih h]

theorem exists_run_of_append {s u : S} {ls ls' : List L} (h : M.run s (ls ++ ls') = some u) :
    ∃ t, M.run s ls = some t ∧ M.run t ls' = some u := by
  induction ls generalizing s with
  | nil => exact ⟨s, rfl, h⟩
  | cons l ls ih =>
    rw [List.cons_append, run_cons, Option.bind_eq_some_iff] at h
    obtain ⟨v, hv, h⟩ := h
    obtain ⟨t, ht, ht'⟩ := ih h
    exact ⟨t, by rw [run_cons, hv, Option.bind_some, ht], ht'⟩

theorem Meets.mono {C C' : S → L → Prop} (hC : ∀ s l, C s l → C' s l) {s : S} {ls : List L}
    (h : M.Meets C s ls) : M.Meets C' s ls := by
  induction ls generalizing s with
  | nil => trivial
  | cons l ls ih => exact ⟨hC _ _ h.1, fun s' hs' => ih (h.2 s' hs')⟩

/-- The two parts of a run that meets a condition meet it. -/
theorem meets_append {C : S → L → Prop} {s t : S} {ls ls' : List L} (hrun : M.run s ls = some t)
    (h : M.Meets C s (ls ++ ls')) : M.Meets C s ls ∧ M.Meets C t ls' := by
  induction ls generalizing s with
  | nil =>
    cases hrun
    exact ⟨trivial, h⟩
  | cons l ls ih =>
    rw [run_cons, Option.bind_eq_some_iff] at hrun
    obtain ⟨u, hu, hrun⟩ := hrun
    have hrest := ih hrun (h.2 u hu)
    refine ⟨⟨h.1, ?_⟩, hrest.2⟩
    intro v hv
    cases hu.symm.trans hv
    exact hrest.1

theorem Meets.append {C : S → L → Prop} {s t : S} {ls ls' : List L} (hrun : M.run s ls = some t)
    (h : M.Meets C s ls) (h' : M.Meets C t ls') : M.Meets C s (ls ++ ls') := by
  induction ls generalizing s with
  | nil =>
    cases hrun
    exact h'
  | cons l ls ih =>
    rw [run_cons, Option.bind_eq_some_iff] at hrun
    obtain ⟨u, hu, hrun⟩ := hrun
    refine ⟨h.1, fun v hv => ?_⟩
    cases hu.symm.trans hv
    exact ih hrun (h.2 u hu)

theorem Meets.and {C C' : S → L → Prop} {s : S} {ls : List L} (h : M.Meets C s ls)
    (h' : M.Meets C' s ls) : M.Meets (fun s l => C s l ∧ C' s l) s ls := by
  induction ls generalizing s with
  | nil => trivial
  | cons l ls ih => exact ⟨⟨h.1, h'.1⟩, fun s' hs' => ih (h.2 s' hs') (h'.2 s' hs')⟩

theorem meets_true (s : S) (ls : List L) : M.Meets (fun _ _ => True) s ls := by
  induction ls generalizing s with
  | nil => trivial
  | cons l ls ih => exact ⟨trivial, fun s' _ => ih s'⟩

theorem meets_of_forall {C : L → Prop} {ls : List L} (h : ∀ l ∈ ls, C l) (s : S) :
    M.Meets (fun _ l => C l) s ls := by
  induction ls generalizing s with
  | nil => trivial
  | cons l ls ih =>
    refine ⟨h l List.mem_cons_self, fun s' _ => ih ?_ s'⟩
    exact fun l' hl' => h l' (List.mem_cons_of_mem _ hl')

theorem meets_of_checks {b : S → L → Bool} {s : S} {ls : List L} (h : M.checks b s ls = true) :
    M.Meets (fun s l => b s l = true) s ls := by
  induction ls generalizing s with
  | nil => trivial
  | cons l ls ih =>
    rw [checks, Bool.and_eq_true] at h
    refine ⟨h.1, fun s' hs' => ih ?_⟩
    simpa [hs'] using h.2

/-- A run of a system with fewer steps. -/
theorem run_mono {M' : System S L} (hstep : ∀ s l t, M.step s l = some t → M'.step s l = some t)
    {s t : S} {ls : List L} (h : M.run s ls = some t) : M'.run s ls = some t := by
  induction ls generalizing s with
  | nil => exact h
  | cons l ls ih =>
    rw [run_cons, Option.bind_eq_some_iff] at h
    obtain ⟨u, hu, h⟩ := h
    rw [run_cons, hstep s l u hu, Option.bind_some, ih h]

/-- A run is replayed to see that its end passes a test. -/
theorem exists_run (M : System S L) (s : S) (ls : List L) (test : S → Bool)
    (h : (M.run s ls).any test = true) : ∃ t, M.run s ls = some t ∧ test t = true :=
  (Option.any_eq_true _ _).1 h

/-- What every step that meets `C` preserves holds at the end of a run that meets `C`. -/
theorem run_invariant {C : S → L → Prop} {I : S → Prop}
    (hstep : ∀ s l s', I s → C s l → M.step s l = some s' → I s')
    {s s' : S} {ls : List L} (hI : I s) (hC : M.Meets C s ls) (hrun : M.run s ls = some s') :
    I s' := by
  induction ls generalizing s with
  | nil => cases hrun; exact hI
  | cons l ls ih =>
    rw [run_cons, Option.bind_eq_some_iff] at hrun
    obtain ⟨t, ht, hrun⟩ := hrun
    exact ih (hstep s l t hI hC.1 ht) (hC.2 t ht) hrun

/-! ## Runs that come to an end -/

section Measure

variable {I : S → Prop} {m : S → Nat}

/-- Where every step lowers `m` by one, `m` tells how long runs are. -/
theorem run_length (hstep : ∀ s l s', I s → M.step s l = some s' → I s' ∧ m s' + 1 = m s)
    {s s' : S} {ls : List L} (hI : I s) (hrun : M.run s ls = some s') : ls.length + m s' = m s := by
  induction ls generalizing s with
  | nil =>
    cases hrun
    exact Nat.zero_add _
  | cons l ls ih =>
    rw [run_cons, Option.bind_eq_some_iff] at hrun
    obtain ⟨t, ht, hrun⟩ := hrun
    obtain ⟨hIt, hdrop⟩ := hstep s l t hI ht
    have hrest := ih hIt hrun
    rw [List.length_cons]
    omega

/-- Where some step is enabled until `m` is zero, there is a run up to there. -/
theorem exists_run_to_end (hstep : ∀ s l s', I s → M.step s l = some s' → I s' ∧ m s' + 1 = m s)
    (hnext : ∀ s, I s → m s ≠ 0 → ∃ l s', M.step s l = some s') {s : S} (hI : I s) :
    ∃ ls s', M.run s ls = some s' ∧ m s' = 0 := by
  generalize hn : m s = n
  induction n generalizing s with
  | zero => exact ⟨[], s, rfl, hn⟩
  | succ n ih =>
    obtain ⟨l, t, ht⟩ := hnext s hI (by omega)
    obtain ⟨hIt, hdrop⟩ := hstep s l t hI ht
    obtain ⟨ls, s', hrun, hend⟩ := ih hIt (by omega)
    refine ⟨l :: ls, s', ?_, hend⟩
    rw [run_cons, ht, Option.bind_some, hrun]

end Measure

end System

end CotServer
