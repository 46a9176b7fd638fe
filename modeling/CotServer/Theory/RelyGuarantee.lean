import CotServer.Theory.Interleaving

/-!
# Rely-guarantee reasoning for interleaved async functions

A `Logic` for a program has an invariant `Inv` of the store, a relation `Rel` between a store and
any later one, and a condition `Allowed` on the actions of the runs it speaks about. `Wp` is the
weakest precondition of a function: at every await the segment that ends there has kept `Inv` and
`Rel`, and what follows only knows that the store moved along `Rel` in the meantime. The segment
since `s₀` is one atomic step, so `Inv` may break inside it.

`Logic.onward` is the only induction over runs: when every function an event starts meets its
precondition, `Inv` holds in every store that an allowed run reaches, and `Rel` between the first
store and the last, whatever the interleaving.
-/

namespace CotServer

open Async

/-- An invariant, a relation along runs, and the actions considered. -/
structure Logic {σ Op : Type} {Ans : Op → Type} {ε Evt Ω Tag : Type}
    (P : Program σ Ans ε Evt Ω Tag) where
  Inv : σ → Prop
  Rel : σ → σ → Prop
  Allowed : σ → Action Ans ε Evt Ω → Prop
  refl : ∀ s, Rel s s
  trans : ∀ {s t u}, Rel s t → Rel t u → Rel s u

namespace Logic

variable {σ Op : Type} {Ans : Op → Type} {ε Evt Ω Tag α β : Type}
variable {P : Program σ Ans ε Evt Ω Tag} (L : Logic P)

/-- The segment that began in `s₀` may end in `s`. -/
def Seg (s₀ s : σ) : Prop := L.Inv s ∧ L.Rel s₀ s

/-- `op` may be handed out in `s`: any answer to it keeps the invariant, and once resumed with
the answer in any later store, what follows satisfies `Q`. -/
def Awaits (op : Op) (Q : Except ε (Ans op) → σ → Prop) (s : σ) : Prop :=
  ∀ s₁, L.Rel s s₁ → L.Inv s₁ → ∀ o r s₂, P.answer op o s₁ = some (r, s₂) →
    L.Allowed s₁ (.answer op o) → L.Seg s₁ s₂ ∧
      ∀ s₃, L.Rel s₂ s₃ → L.Inv s₃ → L.Allowed s₃ (.resume op r) → Q r s₃

/-- The weakest precondition in `s` of a function whose current segment began in `s₀`. -/
def Wp : Async σ Ans ε α → (Q : Except ε α → σ → σ → Prop) → σ → σ → Prop
  | .ret a, Q, s₀, s => Q (.ok a) s₀ s
  | .fail e, Q, s₀, s => Q (.error e) s₀ s
  | .read k, Q, s₀, s => Wp (k s) Q s₀ s
  | .write t k, Q, s₀, _ => Wp k Q s₀ t
  | .await op k, Q, s₀, s => L.Seg s₀ s ∧ L.Awaits op (fun r t => Wp (k r) Q t t) s

/-- The postcondition of a function started by an event. -/
def End {α : Type} : Except ε α → σ → σ → Prop := fun _ s₀ s => L.Seg s₀ s

variable {L}

@[simp] theorem wp_settle {x : Except ε α} {Q : Except ε α → σ → σ → Prop} {s₀ s : σ} :
    L.Wp (settle x) Q s₀ s ↔ Q x s₀ s := by
  cases x <;> exact Iff.rfl

@[simp] theorem wp_throwIf {c : Prop} [Decidable c] {e : ε} {Q : Except ε Unit → σ → σ → Prop}
    {s₀ s : σ} :
    L.Wp (throwIf c e) Q s₀ s ↔ (c → Q (.error e) s₀ s) ∧ (¬ c → Q (.ok ()) s₀ s) := by
  by_cases h : c <;> simp [throwIf, h, Wp]

theorem wp_call {op : Op} {Q : Except ε (Ans op) → σ → σ → Prop} {s₀ s : σ} :
    L.Wp (call op) Q s₀ s ↔ L.Seg s₀ s ∧ L.Awaits op (fun r t => Q r t t) s := by
  simp only [call, Wp, wp_settle]

/-- What follows a function is part of its postcondition. -/
theorem wp_bind {p : Async σ Ans ε α} {f : α → Async σ Ans ε β}
    {Q : Except ε β → σ → σ → Prop} {s₀ s : σ} :
    L.Wp (p >>= f) Q s₀ s ↔ L.Wp p (fun
      | .ok a => L.Wp (f a) Q
      | .error e => Q (.error e)) s₀ s := by
  rw [bind_def]
  induction p generalizing s₀ s with
  | ret a => exact Iff.rfl
  | fail e => exact Iff.rfl
  | read k ih => exact ih s
  | write t k ih => exact ih
  | await op k ih => simp only [Async.bind, Wp, ih]

/-- A handler is run on the error where it is thrown. -/
theorem wp_tryCatch {p : Async σ Ans ε α} {h : ε → Async σ Ans ε α}
    {Q : Except ε α → σ → σ → Prop} {s₀ s : σ} :
    L.Wp (tryCatch p h) Q s₀ s ↔ L.Wp p (fun
      | .ok a => Q (.ok a)
      | .error e => L.Wp (h e) Q) s₀ s := by
  rw [tryCatch_def]
  induction p generalizing s₀ s with
  | ret a => exact Iff.rfl
  | fail e => exact Iff.rfl
  | read k ih => exact ih s
  | write t k ih => exact ih
  | await op k ih => simp only [Async.catchError, Wp, ih]

theorem Awaits.mono {op : Op} {Q Q' : Except ε (Ans op) → σ → Prop} {s : σ}
    (h : L.Awaits op Q s) (hQ : ∀ r t, L.Rel s t → L.Inv t → Q r t → Q' r t) :
    L.Awaits op Q' s := by
  intro s₁ hR hI o r s₂ hans hall
  obtain ⟨hseg, hnext⟩ := h s₁ hR hI o r s₂ hans hall
  refine ⟨hseg, fun s₃ hR' hI' hall' => ?_⟩
  exact hQ r s₃ (L.trans hR (L.trans hseg.2 hR')) hI' (hnext s₃ hR' hI' hall')

/-- The rule of consequence. -/
theorem Wp.mono {p : Async σ Ans ε α} {Q Q' : Except ε α → σ → σ → Prop} {s₀ s : σ}
    (h : L.Wp p Q s₀ s) (hQ : ∀ r t₀ t, Q r t₀ t → Q' r t₀ t) : L.Wp p Q' s₀ s := by
  induction p generalizing s₀ s with
  | ret a => exact hQ _ _ _ h
  | fail e => exact hQ _ _ _ h
  | read k ih => exact ih s h
  | write t k ih => exact ih h
  | await op k ih => exact ⟨h.1, h.2.mono fun r t _ _ hk => ih r hk⟩

/-- What may be handed out in `s` may be handed out later. -/
theorem Awaits.later {op : Op} {Q : Except ε (Ans op) → σ → Prop} {s t : σ}
    (h : L.Awaits op Q s) (hst : L.Rel s t) : L.Awaits op Q t :=
  fun s₁ hR => h s₁ (L.trans hst hR)

/-! ## Triples

`L.Triple p s Q` speaks about `p` started in `s`: each segment is a step of the logic, and a result
`a` is returned in a store that satisfies `Q a`. A function that throws only leaves the invariant.
-/

variable (L) in
/-- The postcondition of a triple. -/
def Post (Q : α → σ → Prop) : Except ε α → σ → σ → Prop :=
  fun r s₀ s => L.Seg s₀ s ∧ ∀ a, r = .ok a → Q a s

variable (L) in
def Triple (p : Async σ Ans ε α) (s : σ) (Q : α → σ → Prop) : Prop := L.Wp p (L.Post Q) s s

theorem Seg.refl {s : σ} (h : L.Inv s) : L.Seg s s := ⟨h, L.refl s⟩

/-- The end of a function comes after its beginning. -/
theorem Wp.later {p : Async σ Ans ε α} {Q : α → σ → Prop} {s₀ s : σ} (h : L.Wp p (L.Post Q) s₀ s) :
    L.Wp p (fun r t₀ t => L.Post Q r t₀ t ∧ L.Rel s₀ t) s₀ s := by
  induction p generalizing s₀ s with
  | ret a => exact ⟨h, h.1.2⟩
  | fail e => exact ⟨h, h.1.2⟩
  | read k ih => exact ih s h
  | write t k ih => exact ih h
  | await op k ih =>
    refine ⟨h.1, h.2.mono fun r t hR _ hk => (ih r hk).mono fun r' t₀ u hu => ?_⟩
    exact ⟨hu.1, L.trans (L.trans h.1.2 hR) hu.2⟩

/-- A segment may have begun earlier. -/
theorem Triple.from {p : Async σ Ans ε α} {Q : α → σ → Prop} {s₀ s : σ} (h : L.Triple p s Q)
    (hR : L.Rel s₀ s) : L.Wp p (L.Post Q) s₀ s := by
  suffices ∀ t, L.Wp p (L.Post Q) s t → L.Wp p (L.Post Q) s₀ t from this s h
  clear h
  intro t h
  induction p generalizing t with
  | ret a => exact ⟨⟨h.1.1, L.trans hR h.1.2⟩, h.2⟩
  | fail e => exact ⟨⟨h.1.1, L.trans hR h.1.2⟩, h.2⟩
  | read k ih => exact ih t t h
  | write u k ih => exact ih u h
  | await op k => exact ⟨⟨h.1.1, L.trans hR h.1.2⟩, h.2⟩

section Rules

variable {Q : α → σ → Prop} {R : β → σ → Prop} {s : σ}

theorem triple_pure {a : α} (hI : L.Inv s) (hQ : Q a s) : L.Triple (pure a) s Q := by
  refine ⟨Seg.refl hI, ?_⟩
  rintro _ ⟨⟩
  exact hQ

theorem triple_throw {e : ε} (hI : L.Inv s) : L.Triple (throw e) s Q :=
  ⟨Seg.refl hI, fun _ h => (nomatch h)⟩

theorem triple_settle {x : Except ε α} (hI : L.Inv s) (hQ : ∀ a, x = .ok a → Q a s) :
    L.Triple (settle x) s Q := by
  cases x with
  | error e => exact triple_throw hI
  | ok a => exact triple_pure hI (hQ a rfl)

theorem triple_throwIf {c : Prop} [Decidable c] {e : ε} {Q : Unit → σ → Prop} (hI : L.Inv s)
    (hQ : ¬ c → Q () s) : L.Triple (throwIf c e) s Q :=
  wp_throwIf.2 ⟨fun _ => triple_throw hI, fun hc => triple_pure hI (hQ hc)⟩

theorem triple_update {f : σ → σ} {Q : Unit → σ → Prop} (h : L.Seg s (f s)) (hQ : Q () (f s)) :
    L.Triple (Async.update f) s Q := ⟨h, fun _ _ => hQ⟩

theorem Triple.mono {p : Async σ Ans ε α} {Q' : α → σ → Prop} (h : L.Triple p s Q)
    (hQ : ∀ a t, L.Rel s t → L.Inv t → Q a t → Q' a t) : L.Triple p s Q' :=
  Wp.mono (Wp.later h) fun _ _ t ht => ⟨ht.1.1, fun a ha => hQ a t ht.2 ht.1.1.1 (ht.1.2 a ha)⟩

theorem Triple.bind {p : Async σ Ans ε α} {f : α → Async σ Ans ε β} (hp : L.Triple p s Q)
    (hf : ∀ a t, L.Rel s t → L.Inv t → Q a t → L.Triple (f a) t R) : L.Triple (p >>= f) s R := by
  refine wp_bind.2 ((Wp.later hp).mono fun r t₀ t ht => ?_)
  obtain ⟨⟨hseg, hQ⟩, hR⟩ := ht
  cases r with
  | error e => exact ⟨hseg, fun _ h => (nomatch h)⟩
  | ok a => exact (hf a t hR hseg.1 (hQ a rfl)).from hseg.2

/-- A read in the middle of a segment sees the store as it is. -/
theorem triple_store {k : σ → Async σ Ans ε β} (h : L.Triple (k s) s R) :
    L.Triple (Async.store >>= k) s R := wp_bind.2 h

theorem Triple.tryCatch {p : Async σ Ans ε α} {h : ε → Async σ Ans ε α} (hp : L.Triple p s Q)
    (hh : ∀ e t, L.Rel s t → L.Inv t → L.Triple (h e) t Q) :
    L.Triple (tryCatch p h) s Q := by
  refine wp_tryCatch.2 ((Wp.later hp).mono fun r t₀ t ht => ?_)
  obtain ⟨hpost, hR⟩ := ht
  cases r with
  | error e => exact (hh e t hR hpost.1.1).from hpost.1.2
  | ok a => exact hpost

/-- An awaited call: its answer is a step, and leaves a fact `G` that lasts until it is resumed. -/
theorem triple_call {op : Op} {Q : Ans op → σ → Prop} {G : Except ε (Ans op) → σ → Prop}
    (hI : L.Inv s)
    (hanswer : ∀ s₁, L.Rel s s₁ → L.Inv s₁ → ∀ o r s₂, P.answer op o s₁ = some (r, s₂) →
      L.Allowed s₁ (.answer op o) → L.Seg s₁ s₂ ∧ G r s₂)
    (hresume : ∀ a s₂ s₃, G (.ok a) s₂ → L.Rel s₂ s₃ → L.Inv s₃ →
      L.Allowed s₃ (.resume op (.ok a)) → Q a s₃) : L.Triple (call op) s Q := by
  refine wp_call.2 ⟨Seg.refl hI, fun s₁ hR hI₁ o r s₂ hans hall => ?_⟩
  obtain ⟨hseg, hG⟩ := hanswer s₁ hR hI₁ o r s₂ hans hall
  refine ⟨hseg, fun s₃ hR' hI' hall => ⟨Seg.refl hI', ?_⟩⟩
  rintro a rfl
  exact hresume a s₂ s₃ hG hR' hI' hall

/-- A function started by an event. -/
theorem Triple.start {p : Async σ Ans ε Unit} {Q : Unit → σ → Prop} {s₀ : σ} (hseg : L.Seg s₀ s)
    (h : L.Triple p s Q) : L.Wp p L.End s₀ s :=
  (h.from hseg.2).mono fun _ _ _ ht => ht.1

end Rules

/-! ## Soundness -/

variable (L) in
/-- What a suspended function needs of the store. -/
def TaskOk (t : Task σ Ans ε Tag) (s : σ) : Prop :=
  match t.reply with
  | none => L.Awaits t.op (fun r u => L.Wp (t.next r) L.End u u) s
  | some r => ∀ u, L.Rel s u → L.Inv u → L.Allowed u (.resume t.op r) →
      L.Wp (t.next r) L.End u u

variable (L) in
/-- The invariant holds and every suspended function can go on. -/
structure PoolOk (c : Pool σ Ans ε Tag) : Prop where
  inv : L.Inv c.store
  tasks : ∀ t ∈ c.tasks, L.TaskOk t c.store

variable (L) in
/-- An event keeps the invariant, or starts a function that meets its precondition. -/
def EventOk (e : Evt) (s : σ) : Prop :=
  ∀ t p, P.event e s = some (t, p) → match p with
    | none => L.Seg s t
    | some (_, p) => L.Wp p L.End s t

theorem TaskOk.later {t : Task σ Ans ε Tag} {s u : σ} (h : L.TaskOk t s) (hR : L.Rel s u) :
    L.TaskOk t u := by
  obtain ⟨tag, op, next, reply⟩ := t
  cases reply with
  | none => exact Awaits.later h hR
  | some r => exact fun v hv => h v (L.trans hR hv)

/-- A segment ends with the invariant, and leaves a function that can go on. -/
theorem Wp.runSegment (tag : Tag) {p : Async σ Ans ε Unit} {s₀ s : σ} (h : L.Wp p L.End s₀ s) :
    L.Seg s₀ (Program.runSegment tag p s).1 ∧
      ∀ t ∈ (Program.runSegment tag p s).2, L.TaskOk t (Program.runSegment tag p s).1 := by
  induction p generalizing s₀ s with
  | ret a => exact ⟨h, by simp [Program.runSegment, Async.segment]⟩
  | fail e => exact ⟨h, by simp [Program.runSegment, Async.segment]⟩
  | read k ih => exact ih s h
  | write t k ih => exact ih h
  | await op k ih =>
    refine ⟨h.1, fun t ht => ?_⟩
    simp only [Program.runSegment, Async.segment, Option.mem_some_iff] at ht
    subst ht
    exact h.2

variable (L) in
/-- A fine pool, after a step along the relation. -/
def Onward (c c' : Pool σ Ans ε Tag) : Prop := L.PoolOk c' ∧ L.Rel c.store c'.store

/-- The tasks of a pool move along with a step of the store. -/
theorem PoolOk.later {c : Pool σ Ans ε Tag} {s : σ} (h : L.PoolOk c) (hs : L.Seg c.store s)
    {ts : List (Task σ Ans ε Tag)} (hts : ∀ t ∈ ts, t ∈ c.tasks ∨ L.TaskOk t s) :
    L.Onward c ⟨s, ts⟩ := by
  refine ⟨⟨hs.1, fun t ht => ?_⟩, hs.2⟩
  rcases hts t ht with hold | hnew
  · exact (h.tasks t hold).later hs.2
  · exact hnew

theorem PoolOk.event {c c' : Pool σ Ans ε Tag} {e : Evt} (h : L.PoolOk c)
    (he : L.EventOk e c.store) (hstep : P.step c (.event e) = some c') : L.Onward c c' := by
  have hfilter : ∀ t ∈ c.tasks.filter (fun t => !P.kills e t.tag), t ∈ c.tasks :=
    fun t ht => List.mem_of_mem_filter ht
  simp only [Program.step] at hstep
  split at hstep
  · cases hstep
  · next s hev =>
    cases hstep
    exact h.later (he s none hev) fun t ht => .inl (hfilter t ht)
  · next s tag p hev =>
    cases hstep
    obtain ⟨hseg, htask⟩ := (he s (some (tag, p)) hev).runSegment tag
    refine h.later hseg fun t ht => ?_
    rcases List.mem_append.1 ht with ht | ht
    · exact .inl (hfilter t ht)
    · exact .inr (htask t (by simpa using ht))

theorem PoolOk.answer {c c' : Pool σ Ans ε Tag} {i : Nat} {o : Ω} (h : L.PoolOk c)
    (hall : Program.Allows L.Allowed c (.answer i o))
    (hstep : P.step c (.answer i o) = some c') : L.Onward c c' := by
  simp only [Program.step] at hstep
  split at hstep
  · next tag op next hget =>
    have hA : L.Allowed c.store (.answer op o) :=
      hall _ (by simp [Program.action, hget])
    have htask := h.tasks _ (List.mem_of_getElem? hget)
    split at hstep
    · cases hstep
    · next r s hans =>
      cases hstep
      obtain ⟨hseg, hnext⟩ := htask c.store (L.refl _) h.inv o r s hans hA
      refine h.later hseg fun t ht => ?_
      rcases List.mem_or_eq_of_mem_set ht with ht | rfl
      · exact .inl ht
      · exact .inr hnext
  · cases hstep

theorem PoolOk.resume {c c' : Pool σ Ans ε Tag} {i : Nat} (h : L.PoolOk c)
    (hall : Program.Allows L.Allowed c (.resume i))
    (hstep : P.step c (.resume i) = some c') : L.Onward c c' := by
  simp only [Program.step] at hstep
  split at hstep
  · next tag op next r hget =>
    have hA : L.Allowed c.store (.resume op r) :=
      hall _ (by simp [Program.action, hget])
    have htask := h.tasks _ (List.mem_of_getElem? hget)
    have hseg := (htask c.store (L.refl _) h.inv hA).runSegment tag
    split at hstep
    · next s hrun =>
      cases hstep
      rw [hrun] at hseg
      exact h.later hseg.1 fun t ht => .inl (List.mem_of_mem_eraseIdx ht)
    · next s t' hrun =>
      cases hstep
      rw [hrun] at hseg
      refine h.later hseg.1 fun t ht => ?_
      rcases List.mem_or_eq_of_mem_set ht with ht | rfl
      · exact .inl ht
      · exact .inr (hseg.2 _ rfl)
  · cases hstep

/-- **Soundness.** When every allowed event is fine in every store that satisfies the invariant,
every pool that an allowed run reaches is fine, and the store has moved along the relation. -/
theorem onward (hev : ∀ e s, L.Inv s → L.Allowed s (.event e) → L.EventOk e s)
    {c c' : Pool σ Ans ε Tag} {ls : List (Label Evt Ω)} (h : L.PoolOk c)
    (hall : P.system.Meets (Program.Allows L.Allowed) c ls) (hrun : P.system.run c ls = some c') :
    L.Onward c c' := by
  refine System.run_invariant (I := L.Onward c) ?_ ⟨h, L.refl _⟩ hall hrun
  intro d l d' hd hl hstep
  obtain ⟨hd, hrel⟩ := hd
  have hnext : L.Onward d d' := by
    cases l with
    | event e => exact hd.event (hev e d.store hd.inv (hl _ rfl)) hstep
    | answer i o => exact hd.answer hl hstep
    | resume i => exact hd.resume hl hstep
  exact ⟨hnext.1, L.trans hrel hnext.2⟩

theorem sound (hev : ∀ e s, L.Inv s → L.Allowed s (.event e) → L.EventOk e s)
    {c c' : Pool σ Ans ε Tag} {ls : List (Label Evt Ω)} (h : L.PoolOk c)
    (hall : P.system.Meets (Program.Allows L.Allowed) c ls) (hrun : P.system.run c ls = some c') :
    L.PoolOk c' := (onward hev h hall hrun).1

/-- A pool with no suspended function is fine when its store is. -/
theorem PoolOk.idle {s : σ} (h : L.Inv s) : L.PoolOk ⟨s, []⟩ :=
  ⟨h, fun _ ht => absurd ht List.not_mem_nil⟩

end Logic

end CotServer
