import CotServer.Theory.Async
import CotServer.Theory.JsValue

/-!
# Postconditions of completed runs

`Post answer p s Q` says that every completed run of `p` from the store `s` ends as `Q` allows. The
rules follow the function from its first step to its last; `Post.mapEntries` is the rule for a
loop, where what the body establishes for an entry has to last while the loop goes on.
-/

namespace CotServer.Async

variable {σ Op : Type} {Ans : Op → Type} {ε α β : Type}

/-- Every run of `p` from `s` ends in a result and a store that satisfy `Q`. -/
def Post (answer : (op : Op) → σ → Except ε (Ans op) → σ → Prop) (p : Async σ Ans ε α) (s : σ)
    (Q : Except ε α → σ → Prop) : Prop :=
  ∀ r s', p.Runs answer s r s' → Q r s'

variable {answer : (op : Op) → σ → Except ε (Ans op) → σ → Prop} {s : σ}

@[simp] theorem post_pure {a : α} {Q : Except ε α → σ → Prop} :
    Post answer (pure a : Async σ Ans ε α) s Q ↔ Q (.ok a) s :=
  ⟨fun h => h _ _ ⟨rfl, rfl⟩, fun h _ _ hrun => by obtain ⟨rfl, rfl⟩ := hrun; exact h⟩

@[simp] theorem post_throw {e : ε} {Q : Except ε α → σ → Prop} :
    Post answer (throw e : Async σ Ans ε α) s Q ↔ Q (.error e) s :=
  ⟨fun h => h _ _ ⟨rfl, rfl⟩, fun h _ _ hrun => by obtain ⟨rfl, rfl⟩ := hrun; exact h⟩

@[simp] theorem post_settle {x : Except ε α} {Q : Except ε α → σ → Prop} :
    Post answer (settle x : Async σ Ans ε α) s Q ↔ Q x s := by
  cases x with
  | error e => exact post_throw
  | ok a => exact post_pure

@[simp] theorem post_throwIf {c : Prop} [Decidable c] {e : ε} {Q : Except ε Unit → σ → Prop} :
    Post answer (throwIf c e : Async σ Ans ε Unit) s Q ↔
      (c → Q (.error e) s) ∧ (¬ c → Q (.ok ()) s) := by
  unfold throwIf
  split
  · next hc => exact post_throw.trans ⟨fun h => ⟨fun _ => h, fun hn => absurd hc hn⟩, fun h => h.1 hc⟩
  · next hc => exact post_pure.trans ⟨fun h => ⟨fun hn => absurd hn hc, fun _ => h⟩, fun h => h.2 hc⟩

theorem post_call {op : Op} {Q : Except ε (Ans op) → σ → Prop} :
    Post answer (call op : Async σ Ans ε _) s Q ↔ ∀ r s', answer op s r s' → Q r s' :=
  forall₂_congr fun _ _ => by rw [runs_call]

@[simp] theorem post_store {Q : Except ε σ → σ → Prop} :
    Post answer (store : Async σ Ans ε σ) s Q ↔ Q (.ok s) s :=
  ⟨fun h => h _ _ ⟨rfl, rfl⟩, fun h _ _ hrun => by obtain ⟨rfl, rfl⟩ := hrun; exact h⟩

@[simp] theorem post_update {f : σ → σ} {Q : Except ε Unit → σ → Prop} :
    Post answer (update f : Async σ Ans ε Unit) s Q ↔ Q (.ok ()) (f s) :=
  ⟨fun h => h _ _ ⟨rfl, rfl⟩, fun h _ _ hrun => by obtain ⟨rfl, rfl⟩ := hrun; exact h⟩

/-- What follows a function is part of its postcondition. -/
theorem post_bind {p : Async σ Ans ε α} {f : α → Async σ Ans ε β} {Q : Except ε β → σ → Prop} :
    Post answer (p >>= f) s Q ↔ Post answer p s fun
      | .ok a, t => Post answer (f a) t Q
      | .error e, t => Q (.error e) t := by
  constructor
  · intro h r t hrun
    cases r with
    | error e => exact h _ _ (runs_bind_error.2 (.inl hrun))
    | ok a => exact fun r' u hnext => h _ _ (runs_bind.2 (.inr ⟨a, t, hrun, hnext⟩))
  · intro h r t hrun
    obtain ⟨e, rfl, hp⟩ | ⟨a, u, hp, hnext⟩ := runs_bind.1 hrun
    · exact h _ _ hp
    · exact h _ _ hp _ _ hnext

theorem post_tryCatch {p : Async σ Ans ε α} {h : ε → Async σ Ans ε α} {Q : Except ε α → σ → Prop} :
    Post answer (tryCatch p h) s Q ↔ Post answer p s fun
      | .ok a, t => Q (.ok a) t
      | .error e, t => Post answer (h e) t Q := by
  constructor
  · intro hpost r t hrun
    cases r with
    | error e => exact fun r' u hnext => hpost _ _ (runs_tryCatch.2 (.inr ⟨e, t, hrun, hnext⟩))
    | ok a => exact hpost _ _ (runs_tryCatch.2 (.inl ⟨a, rfl, hrun⟩))
  · intro hpost r t hrun
    obtain ⟨a, rfl, hp⟩ | ⟨e, u, hp, hnext⟩ := runs_tryCatch.1 hrun
    · exact hpost _ _ hp
    · exact hpost _ _ hp _ _ hnext

/-- The rule of consequence. -/
theorem Post.mono {p : Async σ Ans ε α} {Q Q' : Except ε α → σ → Prop} (h : Post answer p s Q)
    (hQ : ∀ r t, Q r t → Q' r t) : Post answer p s Q' :=
  fun r t hrun => hQ r t (h r t hrun)

/-- A handler that throws another error does not touch the store. -/
theorem Post.rethrow {p : Async σ Ans ε α} {Q : σ → Prop} (h : Post answer p s fun _ t => Q t)
    (f : ε → ε) : Post answer (tryCatch p fun e => throw (f e)) s fun _ t => Q t := by
  refine post_tryCatch.2 (h.mono fun r t ht => ?_)
  cases r with
  | error e => exact post_throw.2 ht
  | ok a => exact ht

/-! ## Loops -/

/-- The store moves along `R`, what is returned satisfies `K`, and an error is thrown only if `E`
allows it. -/
structure Ends (E : Prop) (R : σ → σ → Prop) (s : σ) (K : α → σ → Prop) (r : Except ε α) (t : σ) :
    Prop where
  rel : R s t
  ok : ∀ a, r = .ok a → K a t
  error : ∀ e, r = .error e → E

section Loops

variable {E : Prop} {R : σ → σ → Prop}

theorem Ends.of_ok {K : α → σ → Prop} {a : α} {t : σ} (h : R s t) (hK : K a t) :
    Ends E R s K (.ok a : Except ε α) t :=
  ⟨h, fun _ ha => Except.ok.inj ha ▸ hK, fun _ he => (nomatch he)⟩

theorem Ends.of_error {K : α → σ → Prop} {e : ε} {t : σ} (h : R s t) (hE : E) :
    Ends E R s K (.error e : Except ε α) t :=
  ⟨h, fun _ ha => (nomatch ha), fun _ _ => hE⟩

/-- A function that does not move the store moves it along any reflexive relation. -/
theorem Ends.of_eq (hrefl : ∀ s, R s s) {K : α → σ → Prop} {r : Except ε α} {t : σ}
    (h : Ends E Eq s K r t) : Ends E R s K r t :=
  ⟨h.rel ▸ hrefl s, h.ok, h.error⟩

/-- What follows a function that may throw only where `Q` lets it. -/
theorem Post.seq {p : Async σ Ans ε α} {f : α → Async σ Ans ε β} {K : α → σ → Prop}
    {Q : Except ε β → σ → Prop} (hp : Post answer p s (Ends E R s K))
    (herror : ∀ e t, R s t → E → Q (.error e) t)
    (hf : ∀ a t, R s t → K a t → Post answer (f a) t Q) : Post answer (p >>= f) s Q := by
  refine post_bind.2 (hp.mono fun r t ht => ?_)
  cases r with
  | error e => exact herror e t ht.rel (ht.error e rfl)
  | ok a => exact hf a t ht.rel (ht.ok a rfl)

theorem Post.bind (htrans : ∀ s t u, R s t → R t u → R s u) {p : Async σ Ans ε α}
    {f : α → Async σ Ans ε β} {K : α → σ → Prop} {K' : β → σ → Prop}
    (hp : Post answer p s (Ends E R s K))
    (hf : ∀ a t, R s t → K a t → Post answer (f a) t (Ends E R t K')) :
    Post answer (p >>= f) s (Ends E R s K') := by
  refine hp.seq (fun e t hst hE => .of_error hst hE) fun a t hst ha => ?_
  exact (hf a t hst ha).mono fun r u hu => ⟨htrans s t u hst hu.rel, hu.ok, hu.error⟩

/-- The rule for a loop over entries: `K` relates an entry to what the body returns for it, and
lasts along `R`. -/
theorem Post.mapEntries (hrefl : ∀ s, R s s) (htrans : ∀ s t u, R s t → R t u → R s u)
    {f : JsString → α → Async σ Ans ε α} {K : JsString → α → α → σ → Prop}
    (hlater : ∀ k v v' t u, R t u → K k v v' t → K k v v' u)
    (entries : List (JsString × α))
    (hbody : ∀ k v, (k, v) ∈ entries → ∀ t, R s t →
      Post answer (f k v) t (Ends E R t (K k v))) :
    Post answer (mapEntries f entries) s (Ends E R s fun entries' t =>
      List.Forall₂ (fun e e' => e'.1 = e.1 ∧ K e.1 e.2 e'.2 t) entries entries') := by
  induction entries generalizing s with
  | nil => exact post_pure.2 (.of_ok (hrefl s) .nil)
  | cons entry entries ih =>
    have hhead := hbody entry.1 entry.2 (List.mem_cons_self ..) s (hrefl s)
    refine .bind htrans hhead fun v' t hst hv' => ?_
    have htail := ih (s := t) fun k v hmem u htu =>
      hbody k v (List.mem_cons_of_mem _ hmem) u (htrans s t u hst htu)
    refine .bind htrans htail fun rest u htu hrest => post_pure.2 (.of_ok (hrefl u) ?_)
    exact .cons ⟨rfl, hlater _ _ _ t u htu hv'⟩ hrest

/-- A loop can return when its body can on every entry. -/
theorem CanReturn.mapEntries {f : JsString → α → Async σ Ans ε α} {entries : List (JsString × α)}
    (h : ∀ k v, (k, v) ∈ entries → CanReturn answer (f k v)) :
    CanReturn answer (mapEntries f entries) := by
  induction entries with
  | nil => exact .pure []
  | cons entry entries ih =>
    refine .bind (h _ _ (List.mem_cons_self ..)) fun v => .bind (ih ?_) fun rest => .pure _
    exact fun k v hmem => h k v (List.mem_cons_of_mem _ hmem)

end Loops

end CotServer.Async
