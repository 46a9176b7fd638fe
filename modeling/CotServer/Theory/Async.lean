import Mathlib.Data.List.Basic

/-!
# Async functions over a store

`Async σ Ans ε α` is an async function that returns an `α` or throws an `ε`. Between two awaits it
runs without interruption and reads and writes the store `σ` of its process; at an await it hands
an operation `op` to its surroundings and goes on with the answer, an `Ans op` or an error.
The type is a plain inductive one, so that every function has finitely many awaits on each path
and is defined by the source text alone; who answers an operation, and what else runs in the
meantime, is said elsewhere.

`segment` runs a function up to its next await. `Runs` is the completed run of a function on its
own, with its awaits answered one after another; `HandsOut` says which operations such runs ask
for, `HandsOnly` bounds them, and `Keeps` is the rule for a relation that every run respects.
-/

namespace CotServer

/-- An async function over the store `σ` with operations `Op`. -/
inductive Async (σ : Type) {Op : Type} (Ans : Op → Type) (ε α : Type) where
  | ret (a : α)
  | fail (e : ε)
  | read (k : σ → Async σ Ans ε α)
  | write (s : σ) (k : Async σ Ans ε α)
  | await (op : Op) (k : Except ε (Ans op) → Async σ Ans ε α)

namespace Async

variable {σ Op : Type} {Ans : Op → Type} {ε α β : Type}

/-- Sequencing: an error ends the function. -/
def bind : Async σ Ans ε α → (α → Async σ Ans ε β) → Async σ Ans ε β
  | ret a, f => f a
  | fail e, _ => fail e
  | read k, f => read fun s => (k s).bind f
  | write s k, f => write s (k.bind f)
  | await op k, f => await op fun r => (k r).bind f

/-- `try … catch`. -/
def catchError : Async σ Ans ε α → (ε → Async σ Ans ε α) → Async σ Ans ε α
  | ret a, _ => ret a
  | fail e, h => h e
  | read k, h => read fun s => (k s).catchError h
  | write s k, h => write s (k.catchError h)
  | await op k, h => await op fun r => (k r).catchError h

instance : Monad (Async σ Ans ε) where
  pure := ret
  bind := bind

instance : MonadExceptOf ε (Async σ Ans ε) where
  throw := fail
  tryCatch := catchError

/-- The continuation that goes on with an answer or throws it on. -/
def settle : Except ε α → Async σ Ans ε α
  | .ok a => ret a
  | .error e => fail e

/-- `if (c) throw e`. -/
def throwIf (c : Prop) [Decidable c] (e : ε) : Async σ Ans ε Unit := if c then fail e else ret ()

/-- Hands `op` out and returns its answer. -/
def call (op : Op) : Async σ Ans ε (Ans op) := await op settle

/-- The store of the process. -/
def store : Async σ Ans ε σ := read ret

/-- Updates the store in place. -/
def update (f : σ → σ) : Async σ Ans ε Unit := read fun s => write (f s) (ret ())

theorem bind_def (p : Async σ Ans ε α) (f : α → Async σ Ans ε β) : p >>= f = p.bind f := rfl

theorem tryCatch_def (p : Async σ Ans ε α) (h : ε → Async σ Ans ε α) :
    tryCatch p h = p.catchError h := rfl

/-- Where a segment stops: at the end of the function or at an await. -/
inductive Stop (σ : Type) {Op : Type} (Ans : Op → Type) (ε α : Type) where
  | done (r : Except ε α)
  | await (op : Op) (k : Except ε (Ans op) → Async σ Ans ε α)

/-- Runs the function up to its next await. -/
def segment : Async σ Ans ε α → σ → Stop σ Ans ε α × σ
  | ret a, s => (.done (.ok a), s)
  | fail e, s => (.done (.error e), s)
  | read k, s => (k s).segment s
  | write s k, _ => k.segment s
  | await op k, s => (.await op k, s)

/-- An await in the first part is one of the whole. -/
theorem segment_bind_await {p : Async σ Ans ε α} {f : α → Async σ Ans ε β} {s t : σ} {op : Op}
    {k : Except ε (Ans op) → Async σ Ans ε α} (hp : p.segment s = (.await op k, t)) :
    (p >>= f).segment s = (.await op fun r => k r >>= f, t) := by
  rw [bind_def]
  induction p generalizing s with
  | ret a => cases hp
  | fail e => cases hp
  | read k ih => exact ih s hp
  | write t k ih => exact ih hp
  | await op k ih =>
    cases hp
    rfl

/-- An await inside `try … catch` is one of the whole. -/
theorem segment_tryCatch_await {p : Async σ Ans ε α} {h : ε → Async σ Ans ε α} {s t : σ} {op : Op}
    {k : Except ε (Ans op) → Async σ Ans ε α} (hp : p.segment s = (.await op k, t)) :
    (tryCatch p h).segment s = (.await op fun r => tryCatch (k r) h, t) := by
  rw [tryCatch_def]
  induction p generalizing s with
  | ret a => cases hp
  | fail e => cases hp
  | read k ih => exact ih s hp
  | write t k ih => exact ih hp
  | await op k ih =>
    cases hp
    rfl

/-! ## Completed runs -/

/-- `p.Runs answer s r s'`: alone in the store `s`, with its awaits answered as `answer` allows,
the function ends with the result `r` in the store `s'`. -/
def Runs (answer : (op : Op) → σ → Except ε (Ans op) → σ → Prop) :
    Async σ Ans ε α → σ → Except ε α → σ → Prop
  | ret a, s, r, s' => r = .ok a ∧ s' = s
  | fail e, s, r, s' => r = .error e ∧ s' = s
  | read k, s, r, s' => (k s).Runs answer s r s'
  | write t k, _, r, s' => k.Runs answer t r s'
  | await op k, s, r, s' => ∃ a t, answer op s a t ∧ (k a).Runs answer t r s'

section Runs

variable {answer : (op : Op) → σ → Except ε (Ans op) → σ → Prop} {s s' : σ}

@[simp] theorem runs_pure {a : α} {r : Except ε α} :
    (pure a : Async σ Ans ε α).Runs answer s r s' ↔ r = .ok a ∧ s' = s := Iff.rfl

@[simp] theorem runs_settle {x r : Except ε α} :
    (settle x : Async σ Ans ε α).Runs answer s r s' ↔ r = x ∧ s' = s := by
  cases x <;> exact Iff.rfl

@[simp] theorem runs_throwIf {c : Prop} [Decidable c] {e : ε} {r : Except ε Unit} :
    (throwIf c e : Async σ Ans ε Unit).Runs answer s r s' ↔
      (c ∧ r = .error e ∨ ¬ c ∧ r = .ok ()) ∧ s' = s := by
  by_cases h : c <;> simp [throwIf, h, Runs]

@[simp] theorem runs_call {op : Op} {r : Except ε (Ans op)} :
    (call op : Async σ Ans ε _).Runs answer s r s' ↔ answer op s r s' := by
  constructor
  · rintro ⟨a, t, h, hk⟩
    obtain ⟨rfl, rfl⟩ := runs_settle.1 hk
    exact h
  · exact fun h => ⟨r, s', h, runs_settle.2 ⟨rfl, rfl⟩⟩

/-- More answers allow more runs. -/
theorem Runs.mono {answer' : (op : Op) → σ → Except ε (Ans op) → σ → Prop}
    (h : ∀ op s r s', answer op s r s' → answer' op s r s') {p : Async σ Ans ε α}
    {r : Except ε α} (hrun : p.Runs answer s r s') : p.Runs answer' s r s' := by
  induction p generalizing s with
  | ret a => exact hrun
  | fail e => exact hrun
  | read k ih => exact ih s hrun
  | write t k ih => exact ih hrun
  | await op k ih =>
    obtain ⟨a, t, ha, hk⟩ := hrun
    exact ⟨a, t, h _ _ _ _ ha, ih a hk⟩

/-- A run of `p >>= f` is a run of `p` that throws, or a run of `p` and then one of `f`. -/
theorem runs_bind {p : Async σ Ans ε α} {f : α → Async σ Ans ε β} {r : Except ε β} :
    (p >>= f).Runs answer s r s' ↔
      (∃ e, r = .error e ∧ p.Runs answer s (.error e) s') ∨
        ∃ a t, p.Runs answer s (.ok a) t ∧ (f a).Runs answer t r s' := by
  rw [bind_def]
  induction p generalizing s with
  | ret a => simp [bind, Runs]
  | fail e => simp [bind, Runs]
  | read k ih => exact ih s
  | write t k ih => exact ih
  | await op k ih =>
    simp only [bind, Runs, ih]
    constructor
    · rintro ⟨a, t, ha, ⟨e, he, hk⟩ | ⟨b, u, hk, hf⟩⟩
      · exact .inl ⟨e, he, a, t, ha, hk⟩
      · exact .inr ⟨b, u, ⟨a, t, ha, hk⟩, hf⟩
    · rintro (⟨e, he, a, t, ha, hk⟩ | ⟨b, u, ⟨a, t, ha, hk⟩, hf⟩)
      · exact ⟨a, t, ha, .inl ⟨e, he, hk⟩⟩
      · exact ⟨a, t, ha, .inr ⟨b, u, hk, hf⟩⟩

/-- A run that returns goes through every step of a sequence. -/
theorem runs_bind_ok {p : Async σ Ans ε α} {f : α → Async σ Ans ε β} {b : β} :
    (p >>= f).Runs answer s (.ok b) s' ↔
      ∃ a t, p.Runs answer s (.ok a) t ∧ (f a).Runs answer t (.ok b) s' := by
  simp [runs_bind]

/-- A run that throws does so in the first part or in the second. -/
theorem runs_bind_error {p : Async σ Ans ε α} {f : α → Async σ Ans ε β} {e : ε} :
    (p >>= f).Runs answer s (.error e) s' ↔
      p.Runs answer s (.error e) s' ∨
        ∃ a t, p.Runs answer s (.ok a) t ∧ (f a).Runs answer t (.error e) s' := by
  simp [runs_bind]

/-- A read at the beginning sees the store as it is. -/
theorem runs_store_bind {k : σ → Async σ Ans ε α} {r : Except ε α} :
    (store >>= k).Runs answer s r s' ↔ (k s).Runs answer s r s' := Iff.rfl

theorem runs_update {f : σ → σ} {r : Except ε Unit} :
    (update f : Async σ Ans ε Unit).Runs answer s r s' ↔ r = .ok () ∧ s' = f s := Iff.rfl

theorem runs_update_bind {f : σ → σ} {k : Unit → Async σ Ans ε α} {r : Except ε α} :
    (update f >>= k).Runs answer s r s' ↔ (k ()).Runs answer (f s) r s' := Iff.rfl

/-- A run of `try … catch` is a run that returns, or one that throws and then one of the handler. -/
theorem runs_tryCatch {p : Async σ Ans ε α} {h : ε → Async σ Ans ε α} {r : Except ε α} :
    (tryCatch p h).Runs answer s r s' ↔
      (∃ a, r = .ok a ∧ p.Runs answer s (.ok a) s') ∨
        ∃ e t, p.Runs answer s (.error e) t ∧ (h e).Runs answer t r s' := by
  rw [tryCatch_def]
  induction p generalizing s with
  | ret a => simp [catchError, Runs]
  | fail e => simp [catchError, Runs]
  | read k ih => exact ih s
  | write t k ih => exact ih
  | await op k ih =>
    simp only [catchError, Runs, ih]
    constructor
    · rintro ⟨a, t, ha, ⟨b, hb, hk⟩ | ⟨e, u, hk, hh⟩⟩
      · exact .inl ⟨b, hb, a, t, ha, hk⟩
      · exact .inr ⟨e, u, ⟨a, t, ha, hk⟩, hh⟩
    · rintro (⟨b, hb, a, t, ha, hk⟩ | ⟨e, u, ⟨a, t, ha, hk⟩, hh⟩)
      · exact ⟨a, t, ha, .inl ⟨b, hb, hk⟩⟩
      · exact ⟨a, t, ha, .inr ⟨e, u, hk, hh⟩⟩

/-- Replays a run from the choices that the surroundings make at its awaits. -/
def exec {Ω : Type} (answerBy : (op : Op) → Ω → σ → Option (Except ε (Ans op) × σ)) :
    Async σ Ans ε α → List Ω → σ → Option (Except ε α × σ)
  | ret a, _, s => some (.ok a, s)
  | fail e, _, s => some (.error e, s)
  | read k, os, s => (k s).exec answerBy os s
  | write t k, os, _ => k.exec answerBy os t
  | await _ _, [], _ => none
  | await op k, o :: os, s =>
    match answerBy op o s with
    | none => none
    | some (a, t) => (k a).exec answerBy os t

/-- A replayed run is a run, with answers that the choices allow. -/
theorem runs_of_exec_mem {Ω : Type}
    {answerBy : (op : Op) → Ω → σ → Option (Except ε (Ans op) × σ)} {p : Async σ Ans ε α}
    {os : List Ω} {r : Except ε α} (h : p.exec answerBy os s = some (r, s')) :
    p.Runs (fun op s a t => ∃ o ∈ os, answerBy op o s = some (a, t)) s r s' := by
  induction p generalizing os s with
  | ret a => simp only [exec, Option.some.injEq, Prod.mk.injEq] at h; exact ⟨h.1.symm, h.2.symm⟩
  | fail e => simp only [exec, Option.some.injEq, Prod.mk.injEq] at h; exact ⟨h.1.symm, h.2.symm⟩
  | read k ih => exact ih s h
  | write t k ih => exact ih h
  | await op k ih =>
    cases os with
    | nil => cases h
    | cons o os =>
      rw [exec] at h
      split at h
      · cases h
      · next a t hans =>
        refine ⟨a, t, ⟨o, List.mem_cons_self .., hans⟩, (ih a h).mono ?_⟩
        rintro op s a t ⟨o', ho', hans'⟩
        exact ⟨o', List.mem_cons_of_mem _ ho', hans'⟩

theorem runs_of_exec {Ω : Type} {answerBy : (op : Op) → Ω → σ → Option (Except ε (Ans op) × σ)}
    {p : Async σ Ans ε α} {os : List Ω} {r : Except ε α} (h : p.exec answerBy os s = some (r, s')) :
    p.Runs (fun op s a t => ∃ o, answerBy op o s = some (a, t)) s r s' :=
  (runs_of_exec_mem h).mono fun _ _ _ _ ⟨o, _, hans⟩ => ⟨o, hans⟩

/-! ## Functions that can return -/

variable (answer) in
/-- From every store, some run of `p` returns. -/
def CanReturn (p : Async σ Ans ε α) : Prop := ∀ s, ∃ a s', p.Runs answer s (.ok a) s'

theorem CanReturn.pure (a : α) : CanReturn answer (Pure.pure a : Async σ Ans ε α) :=
  fun s => ⟨a, s, rfl, rfl⟩

theorem CanReturn.call {op : Op} (h : ∀ s, ∃ a s', answer op s (.ok a) s') :
    CanReturn answer (call op : Async σ Ans ε _) := by
  intro s
  obtain ⟨a, s', ha⟩ := h s
  exact ⟨a, s', runs_call.2 ha⟩

theorem CanReturn.bind {p : Async σ Ans ε α} {f : α → Async σ Ans ε β} (hp : CanReturn answer p)
    (hf : ∀ a, CanReturn answer (f a)) : CanReturn answer (p >>= f) := by
  intro s
  obtain ⟨a, t, hrun⟩ := hp s
  obtain ⟨b, s', hnext⟩ := hf a t
  exact ⟨b, s', runs_bind_ok.2 ⟨a, t, hrun, hnext⟩⟩

theorem CanReturn.settle_bind {a : α} {f : α → Async σ Ans ε β} (h : CanReturn answer (f a)) :
    CanReturn answer (settle (.ok a) >>= f) := h

/-! ## Operations handed out -/

variable (answer) in
/-- Some run of `p` from `s` hands out `op`. -/
def HandsOut : Async σ Ans ε α → σ → Op → Prop
  | ret _, _, _ => False
  | fail _, _, _ => False
  | read k, s, op => (k s).HandsOut s op
  | write t k, _, op => k.HandsOut t op
  | await op' k, s, op => op = op' ∨ ∃ a t, answer op' s a t ∧ (k a).HandsOut t op

@[simp] theorem not_handsOut_settle {x : Except ε α} {op : Op} :
    ¬ (settle x : Async σ Ans ε α).HandsOut answer s op := by
  cases x <;> exact id

@[simp] theorem handsOut_call {op op' : Op} :
    (call op' : Async σ Ans ε _).HandsOut answer s op ↔ op = op' := by
  constructor
  · rintro (rfl | ⟨a, t, _, h⟩)
    · rfl
    · exact absurd h not_handsOut_settle
  · exact .inl

/-- What `p >>= f` hands out is handed out by `p`, or by `f` after a run of `p`. -/
theorem handsOut_bind {p : Async σ Ans ε α} {f : α → Async σ Ans ε β} {op : Op} :
    (p >>= f).HandsOut answer s op ↔
      p.HandsOut answer s op ∨ ∃ a t, p.Runs answer s (.ok a) t ∧ (f a).HandsOut answer t op := by
  rw [bind_def]
  induction p generalizing s with
  | ret a => simp [bind, HandsOut, Runs]
  | fail e => simp [bind, HandsOut, Runs]
  | read k ih => exact ih s
  | write t k ih => exact ih
  | await op' k ih =>
    simp only [bind, HandsOut, Runs, ih]
    constructor
    · rintro (rfl | ⟨a, t, ha, hk | ⟨b, u, hk, hf⟩⟩)
      · exact .inl (.inl rfl)
      · exact .inl (.inr ⟨a, t, ha, hk⟩)
      · exact .inr ⟨b, u, ⟨a, t, ha, hk⟩, hf⟩
    · rintro ((rfl | ⟨a, t, ha, hk⟩) | ⟨b, u, ⟨a, t, ha, hk⟩, hf⟩)
      · exact .inl rfl
      · exact .inr ⟨a, t, ha, .inl hk⟩
      · exact .inr ⟨a, t, ha, .inr ⟨b, u, hk, hf⟩⟩

/-- The operation that a replayed run asks for after the given answers. -/
def opAfter {Ω : Type} (answerBy : (op : Op) → Ω → σ → Option (Except ε (Ans op) × σ)) :
    Async σ Ans ε α → List Ω → σ → Option Op
  | ret _, _, _ => none
  | fail _, _, _ => none
  | read k, os, s => (k s).opAfter answerBy os s
  | write t k, os, _ => k.opAfter answerBy os t
  | await op _, [], _ => some op
  | await op k, o :: os, s =>
    match answerBy op o s with
    | none => none
    | some (a, t) => (k a).opAfter answerBy os t

theorem handsOut_of_opAfter {Ω : Type}
    {answerBy : (op : Op) → Ω → σ → Option (Except ε (Ans op) × σ)} {p : Async σ Ans ε α}
    {os : List Ω} {op : Op} (h : p.opAfter answerBy os s = some op) :
    p.HandsOut (fun op s a t => ∃ o, answerBy op o s = some (a, t)) s op := by
  induction p generalizing os s with
  | ret a => cases h
  | fail e => cases h
  | read k ih => exact ih s h
  | write t k ih => exact ih h
  | await op' k ih =>
    cases os with
    | nil =>
      cases h
      exact .inl rfl
    | cons o os =>
      rw [opAfter] at h
      split at h
      · cases h
      · next a t hans => exact .inr ⟨a, t, ⟨o, hans⟩, ih a h⟩

variable (answer) in
/-- Every run of `p` hands out only what `A` allows. -/
def HandsOnly (A : Op → Prop) (p : Async σ Ans ε α) : Prop :=
  ∀ s op, p.HandsOut answer s op → A op

section HandsOnly

variable {A : Op → Prop}

theorem HandsOnly.pure (a : α) : HandsOnly answer A (Pure.pure a : Async σ Ans ε α) :=
  fun _ _ h => h.elim

theorem HandsOnly.throw (e : ε) : HandsOnly answer A (throw e : Async σ Ans ε α) :=
  fun _ _ h => h.elim

theorem HandsOnly.settle (x : Except ε α) : HandsOnly answer A (settle x : Async σ Ans ε α) :=
  fun _ _ h => absurd h not_handsOut_settle

theorem HandsOnly.throwIf (c : Prop) [Decidable c] (e : ε) :
    HandsOnly answer A (throwIf c e : Async σ Ans ε Unit) := by
  unfold Async.throwIf
  split
  · exact HandsOnly.throw e
  · exact HandsOnly.pure ()

theorem HandsOnly.call {op : Op} (h : A op) : HandsOnly answer A (call op : Async σ Ans ε _) := by
  intro s op' hout
  rwa [handsOut_call.1 hout]

theorem HandsOnly.bind {p : Async σ Ans ε α} {f : α → Async σ Ans ε β}
    (hp : HandsOnly answer A p) (hf : ∀ a, HandsOnly answer A (f a)) :
    HandsOnly answer A (p >>= f) := by
  intro s op hout
  rcases handsOut_bind.1 hout with hfirst | ⟨a, t, _, hnext⟩
  · exact hp s op hfirst
  · exact hf a t op hnext

end HandsOnly

/-! ## Relations that runs respect -/

variable (answer) in
/-- Every run of `p` moves the store along `R`. -/
def Keeps (R : σ → σ → Prop) (p : Async σ Ans ε α) : Prop :=
  ∀ s r s', p.Runs answer s r s' → R s s'

variable {R : σ → σ → Prop}

theorem Keeps.pure (hrefl : ∀ s, R s s) (a : α) :
    Keeps answer R (Pure.pure a : Async σ Ans ε α) := by
  rintro s r s' ⟨_, rfl⟩
  exact hrefl s'

theorem Keeps.throw (hrefl : ∀ s, R s s) (e : ε) :
    Keeps answer R (throw e : Async σ Ans ε α) := by
  rintro s r s' ⟨_, rfl⟩
  exact hrefl s'

theorem Keeps.settle (hrefl : ∀ s, R s s) (x : Except ε α) :
    Keeps answer R (settle x : Async σ Ans ε α) := by
  intro s r s' h
  obtain ⟨_, rfl⟩ := runs_settle.1 h
  exact hrefl s'

theorem Keeps.throwIf (hrefl : ∀ s, R s s) (c : Prop) [Decidable c] (e : ε) :
    Keeps answer R (throwIf c e : Async σ Ans ε Unit) := by
  intro s r s' h
  obtain ⟨_, rfl⟩ := runs_throwIf.1 h
  exact hrefl s'

theorem Keeps.call {op : Op} (h : ∀ s r s', answer op s r s' → R s s') :
    Keeps answer R (call op : Async σ Ans ε _) :=
  fun s r s' hrun => h s r s' (runs_call.1 hrun)

theorem Keeps.store (hrefl : ∀ s, R s s) : Keeps answer R (store : Async σ Ans ε σ) := by
  rintro s r s' ⟨_, rfl⟩
  exact hrefl s'

theorem Keeps.update {f : σ → σ} (h : ∀ s, R s (f s)) :
    Keeps answer R (update f : Async σ Ans ε Unit) := by
  intro s r s' hrun
  obtain ⟨_, rfl⟩ := runs_update.1 hrun
  exact h s

theorem Keeps.mono {R' : σ → σ → Prop} {p : Async σ Ans ε α} (hp : Keeps answer R p)
    (h : ∀ s t, R s t → R' s t) : Keeps answer R' p :=
  fun s r s' hrun => h s s' (hp s r s' hrun)

theorem Keeps.bind (htrans : ∀ s t u, R s t → R t u → R s u) {p : Async σ Ans ε α}
    {f : α → Async σ Ans ε β} (hp : Keeps answer R p) (hf : ∀ a, Keeps answer R (f a)) :
    Keeps answer R (p >>= f) := by
  intro s r s' h
  rcases runs_bind.1 h with ⟨e, _, hrun⟩ | ⟨a, t, hrun, hnext⟩
  · exact hp s _ s' hrun
  · exact htrans s t s' (hp s _ t hrun) (hf a t r s' hnext)

theorem Keeps.tryCatch (htrans : ∀ s t u, R s t → R t u → R s u) {p : Async σ Ans ε α}
    {h : ε → Async σ Ans ε α} (hp : Keeps answer R p) (hh : ∀ e, Keeps answer R (h e)) :
    Keeps answer R (tryCatch p h) := by
  intro s r s' hrun
  rcases runs_tryCatch.1 hrun with ⟨a, _, hp'⟩ | ⟨e, t, hp', hcatch⟩
  · exact hp s _ s' hp'
  · exact htrans s t s' (hp s _ t hp') (hh e t r s' hcatch)

end Runs

end Async

end CotServer
