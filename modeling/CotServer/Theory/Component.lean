import CotServer.Theory.Positions
import Mathlib.Data.List.ReduceOption
import Mathlib.Data.List.Perm.Basic

/-!
# Components of a program

A program over a large store `τ` that consists of components. Each component `i` has a store `σ i`,
a `View` of the large one that may not be there yet, and a program of its own; its functions run on
the large store through the view (`Async.via`). The large program may also run functions of its
own, which start functions of the components on the way.

`Hosts` lists what relates the steps of the large program to those of a component. Then the large
program does nothing else to the component than the component's own program can do: `tracks_run`
gives, for every run of the large program, a run of the component that ends with the same store and
the same suspended functions.
-/

namespace CotServer

open Async

/-- A part of a store, which may not be there. -/
structure View (τ σ : Type) where
  get : τ → Option σ
  set : σ → τ → τ
  get_set : ∀ {s t u}, get s = some t → get (set u s) = some u
  set_none : ∀ {s u}, get s = none → set u s = s

/-- The operations of components, and others. -/
abbrev FamilyAns {ι A : Type} {Op : ι → Type} (Own : A → Type) (Ans : ∀ i, Op i → Type) :
    A ⊕ (Σ i, Op i) → Type
  | .inl a => Own a
  | .inr x => Ans x.1 x.2

namespace Async

/-- `p`, and then `k` on its result or its error. -/
def followedBy {σ Op : Type} {Ans : Op → Type} {ε α β : Type} :
    Async σ Ans ε α → (Except ε α → Async σ Ans ε β) → Async σ Ans ε β
  | ret a, k => k (.ok a)
  | fail e, k => k (.error e)
  | read f, k => read fun s => (f s).followedBy k
  | write t p, k => write t (p.followedBy k)
  | await op f, k => await op fun r => (f r).followedBy k

section Via

variable {τ ι A : Type} {σ Op : ι → Type} {Own : A → Type} {Ans : ∀ i, Op i → Type} {ε α β : Type}

/-- A function of a component, on the large store; `missing` is thrown where the component is not
there. -/
def via {i : ι} (V : View τ (σ i)) (missing : ε) :
    Async (σ i) (Ans i) ε α → Async τ (FamilyAns Own Ans) ε α
  | ret a => ret a
  | fail e => fail e
  | read k => read fun s =>
    match V.get s with
    | some t => (k t).via V missing
    | none => fail missing
  | write t k => read fun s => write (V.set t s) (k.via V missing)
  | await op k => await (.inr ⟨i, op⟩) fun r => (k r).via V missing

/-- Where a segment of the component's function stops, on the large store. -/
def Stop.via {i : ι} (V : View τ (σ i)) (missing : ε) :
    Stop (σ i) (Ans i) ε α → Stop τ (FamilyAns Own Ans) ε α
  | .done r => .done r
  | .await op k => .await (.inr ⟨i, op⟩) fun r => (k r).via V missing

theorem segment_via {i : ι} {V : View τ (σ i)} {missing : ε} (p : Async (σ i) (Ans i) ε α) {s : τ}
    {t : σ i} (h : V.get s = some t) :
    ∃ s', V.get s' = some (p.segment t).2 ∧
      (p.via V missing : Async τ (FamilyAns Own Ans) ε α).segment s =
        ((p.segment t).1.via V missing, s') := by
  induction p generalizing s t with
  | ret a => exact ⟨s, h, rfl⟩
  | fail e => exact ⟨s, h, rfl⟩
  | read k ih =>
    obtain ⟨s', hget, hseg⟩ := ih t h
    refine ⟨s', hget, ?_⟩
    simp only [via, segment, h]
    exact hseg
  | write u k ih => exact ih (V.get_set h)
  | await op k ih => exact ⟨s, h, rfl⟩

end Via

section FollowedBy

variable {σ Op : Type} {Ans : Op → Type} {ε α β γ : Type}

theorem store_bind (k : σ → Async σ Ans ε β) : store >>= k = read k := rfl

theorem call_bind (op : Op) (k : Ans op → Async σ Ans ε β) :
    call op >>= k = await op fun r => settle r >>= k := rfl

theorem ok_bind (a : α) (k : α → Async σ Ans ε β) : settle (.ok a : Except ε α) >>= k = k a := rfl

theorem bind_eq_followedBy (p : Async σ Ans ε α) (f : α → Async σ Ans ε β) :
    p >>= f = p.followedBy fun
      | .ok a => f a
      | .error e => throw e := by
  rw [bind_def]
  induction p with
  | ret a => rfl
  | fail e => rfl
  | read k ih => simp only [Async.bind, followedBy, ih]
  | write t k ih => simp only [Async.bind, followedBy, ih]
  | await op k ih => simp only [Async.bind, followedBy, ih]

theorem followedBy_settle (p : Async σ Ans ε α) : p.followedBy settle = p := by
  induction p with
  | ret a => rfl
  | fail e => rfl
  | read k ih => simp only [followedBy, ih]
  | write t k ih => simp only [followedBy, ih]
  | await op k ih => simp only [followedBy, ih]

/-- What a segment that stops goes on with. -/
theorem segment_followedBy (p : Async σ Ans ε α) (k : Except ε α → Async σ Ans ε β) (s : σ) :
    (p.followedBy k).segment s = match p.segment s with
      | (.done r, t) => (k r).segment t
      | (.await op f, t) => (.await op fun r => (f r).followedBy k, t) := by
  induction p generalizing s with
  | ret a => rfl
  | fail e => rfl
  | read f ih => exact ih s s
  | write t p ih => exact ih t
  | await op f ih => rfl

end FollowedBy

end Async

/-- Functions that change their store only as `Keeps` says. -/
def keeping {σ Op : Type} {Ans : Op → Type} {ε : Type} (Keeps : σ → σ → Prop) :
    Moves σ Ans ε Unit where
  move _ s _ t := Keeps s t
  wait _ _ _ _ := True
  receive _ _ _ := ()

/-! ## Hosting a component -/

section

variable {τ ι A Evt WEvt Ω WΩ Tag : Type} {σ Op : ι → Type} {Own : A → Type}
  {Ans : ∀ i, Op i → Type} {ε : Type}

/-- A suspended function of a component, as one of the large program that goes on with `k`. -/
def Task.via {i : ι} (V : View τ (σ i)) (missing : ε) (t : Task (σ i) (Ans i) ε Tag)
    (k : Except ε Unit → Async τ (FamilyAns Own Ans) ε Unit) :
    Task τ (FamilyAns Own Ans) ε Tag :=
  ⟨t.tag, .inr ⟨i, t.op⟩, fun r => ((t.next r).via V missing).followedBy k, t.reply⟩

variable (i : ι) (V : View τ (σ i)) (missing : ε) (P : Program (σ i) (Ans i) ε Evt Ω Tag)
  (Allowed : σ i → Action (Ans i) ε Evt Ω → Prop)

/-- In allowed steps, the component comes from the store `u` to the store `u'`, with the suspended
functions `new` and those that were there before. -/
def Reaches (u u' : σ i) (new : List (Task (σ i) (Ans i) ε Tag)) : Prop :=
  ∀ ts, ∃ ls, P.system.run ⟨u, ts⟩ ls = some ⟨u', ts ++ new⟩ ∧
    P.system.Meets (Program.Allows Allowed) ⟨u, ts⟩ ls

/-- The component comes to where it runs `q`. -/
def Starts (tag : Tag) (u : σ i) (q : Async (σ i) (Ans i) ε Unit) : Prop :=
  Reaches i P Allowed u (Program.runSegment tag q u).1 (Program.runSegment tag q u).2.toList

/-- A function of the large program, in the store `s`, that leaves the component alone up to where
it runs a function that the component can start. -/
inductive Aside (tag : Tag) : Async τ (FamilyAns Own Ans) ε Unit → τ → Prop where
  | ret {a s} : Aside tag (.ret a) s
  | fail {e s} : Aside tag (.fail e) s
  | read {k s} (h : Aside tag (k s) s) : Aside tag (.read k) s
  | write {t k s} (hget : V.get t = V.get s) (h : Aside tag k t) : Aside tag (.write t k) s
  | await {op k s} (hop : ∀ o, op ≠ .inr ⟨i, o⟩) (h : ∀ r s, Aside tag (k r) s) :
    Aside tag (.await op k) s
  | start {q k s u} (hget : V.get s = some u) (hq : Starts i P Allowed tag u q)
    (h : ∀ r s, Aside tag (k r) s) : Aside tag ((q.via V missing).followedBy k) s

/-- A suspended function of the large program: one of the component, or one that leaves it alone. -/
def Hosted (T : Task τ (FamilyAns Own Ans) ε Tag) : Option (Task (σ i) (Ans i) ε Tag) → Prop
  | none => (∀ o, T.op ≠ .inr ⟨i, o⟩) ∧ ∀ r s, Aside i V missing P Allowed T.tag (T.next r) s
  | some t => ∃ k, (∀ r s, Aside i V missing P Allowed t.tag (k r) s) ∧ T = t.via V missing k

/-- What the component has of a function that may have been suspended. -/
def Leaves : Option (Task τ (FamilyAns Own Ans) ε Tag) → List (Task (σ i) (Ans i) ε Tag) → Prop
  | none, new => new = []
  | some T, new => ∃ o, Hosted i V missing P Allowed T o ∧ new = o.toList

/-- The pool of the component is the part of the large pool that belongs to it. -/
structure Tracks (c : Pool τ (FamilyAns Own Ans) ε Tag) (d : Pool (σ i) (Ans i) ε Tag) : Prop where
  store : V.get c.store = some d.store
  tasks : ∃ os : List (Option (Task (σ i) (Ans i) ε Tag)),
    List.Forall₂ (Hosted i V missing P Allowed) c.tasks os ∧ os.reduceOption.Perm d.tasks

/-- Nothing in the large pool belongs to the component, which is not there. -/
structure Absent (c : Pool τ (FamilyAns Own Ans) ε Tag) : Prop where
  store : V.get c.store = none
  tasks : ∀ T ∈ c.tasks, Hosted i V missing P Allowed T none

/-- What an event of the large program is to the component: none of its business, or an event. -/
inductive HostedEvent (kills : Tag → Bool) (u : σ i) (s : τ) :
    Option (Tag × Async τ (FamilyAns Own Ans) ε Unit) → Prop where
  | aside {next} (hkills : ∀ tag, kills tag = false) (hget : V.get s = some u)
    (hnext : ∀ tag p, next = some (tag, p) → Aside i V missing P Allowed tag p s) :
    HostedEvent kills u s next
  | event {e t} (hallowed : Allowed u (.event e)) (hkills : ∀ tag, kills tag = P.kills e tag)
    (hget : V.get s = some t) (hevent : P.event e u = some (t, none)) :
    HostedEvent kills u s none
  | start {e t tag q k} (hallowed : Allowed u (.event e))
    (hkills : ∀ tag, kills tag = P.kills e tag) (hget : V.get s = some t)
    (hevent : P.event e u = some (t, some (tag, q)))
    (hk : ∀ r s, Aside i V missing P Allowed tag (k r) s) :
    HostedEvent kills u s (some (tag, (q.via V missing).followedBy k))

variable (W : Program τ (FamilyAns Own Ans) ε WEvt WΩ Tag)
  (WAllowed : τ → Action (FamilyAns Own Ans) ε WEvt WΩ → Prop) (New : σ i → Prop)

/-- In its allowed steps, the large program does to the component what the component's own program
can do, in allowed steps. -/
structure Hosts : Prop where
  event : ∀ {e s s' next u}, W.event e s = some (s', next) → WAllowed s (.event e) →
    V.get s = some u → HostedEvent i V missing P Allowed (W.kills e) u s' next
  /-- A component that is not there is left alone, or is made. -/
  absent : ∀ {e s s' next}, W.event e s = some (s', next) → WAllowed s (.event e) →
    V.get s = none → V.get s' = none ∧
        (∀ tag p, next = some (tag, p) → Aside i V missing P Allowed tag p s') ∨
      next = none ∧ ∃ u, V.get s' = some u ∧ New u
  answer : ∀ {op o s s' u r}, W.answer (.inr ⟨i, op⟩) o s = some (r, s') →
    WAllowed s (.answer (.inr ⟨i, op⟩) o) → V.get s = some u →
    ∃ o' u', P.answer op o' u = some (r, u') ∧ Allowed u (.answer op o') ∧ V.get s' = some u'
  /-- The other calls start no function of the component. -/
  other : ∀ {op o s s' r}, (∀ o, op ≠ .inr ⟨i, o⟩) → W.answer op o s = some (r, s') →
    WAllowed s (.answer op o) → (V.get s = none → V.get s' = none) ∧
      ∀ u, V.get s = some u → ∃ u', Reaches i P Allowed u u' [] ∧ V.get s' = some u'
  resume : ∀ {op s u} {r : Except ε (Ans i op)}, WAllowed s (.resume (.inr ⟨i, op⟩) r) →
    V.get s = some u → Allowed u (.resume op r)

section Steps

variable {i V missing P Allowed} {tag : Tag} {s : τ} {u u' u'' : σ i}

theorem Reaches.refl (u : σ i) : Reaches i P Allowed u u [] :=
  fun _ => ⟨[], by rw [List.append_nil, System.run_nil], trivial⟩

theorem Reaches.trans {new new' : List (Task (σ i) (Ans i) ε Tag)}
    (h : Reaches i P Allowed u u' new) (h' : Reaches i P Allowed u' u'' new') :
    Reaches i P Allowed u u'' (new ++ new') := by
  intro ts
  obtain ⟨ls, hrun, hmeets⟩ := h ts
  obtain ⟨ls', hrun', hmeets'⟩ := h' (ts ++ new)
  rw [List.append_assoc] at hrun'
  exact ⟨ls ++ ls', System.run_append hrun hrun', hmeets.append hrun hmeets'⟩

/-- One event that starts nothing and ends no function. -/
theorem Reaches.event {e : Evt} (hallowed : Allowed u (.event e))
    (hkills : ∀ tag, P.kills e tag = false) (hevent : P.event e u = some (u', none)) :
    Reaches i P Allowed u u' [] := by
  intro ts
  refine ⟨[.event e], ?_, fun a ha => (by cases ha; exact hallowed), fun _ _ => trivial⟩
  have hts : ts.filter (fun t => !P.kills e t.tag) = ts :=
    List.filter_eq_self.2 fun t _ => by rw [hkills]; rfl
  simp only [System.run, Program.system, Program.step, hevent, hts, List.append_nil]
  rfl

/-- What a function of the component leaves, when what follows it is known to. -/
theorem runSegment_followedBy {t : σ i} {q : Async (σ i) (Ans i) ε Unit}
    {k : Except ε Unit → Async τ (FamilyAns Own Ans) ε Unit} (hget : V.get s = some t)
    (hk : ∀ r s, Aside i V missing P Allowed tag (k r) s)
    (hrest : ∀ r s u, V.get s = some u → ∃ u' rest, Reaches i P Allowed u u' rest ∧
      V.get (Program.runSegment tag (k r) s).1 = some u' ∧
      Leaves i V missing P Allowed (Program.runSegment tag (k r) s).2 rest) :
    ∃ u' rest, Reaches i P Allowed (Program.runSegment tag q t).1 u' rest ∧
      V.get (Program.runSegment tag ((q.via V missing).followedBy k) s).1 = some u' ∧
      Leaves i V missing P Allowed (Program.runSegment tag ((q.via V missing).followedBy k) s).2
        ((Program.runSegment tag q t).2.toList ++ rest) := by
  obtain ⟨s', hget', hseg⟩ : ∃ s', V.get s' = some (q.segment t).2 ∧
      (q.via V missing : Async τ (FamilyAns Own Ans) ε Unit).segment s =
        ((q.segment t).1.via V missing, s') := segment_via q hget
  simp only [Program.runSegment, segment_followedBy, hseg]
  generalize q.segment t = x at hget' ⊢
  obtain ⟨_ | ⟨op, f⟩, t'⟩ := x
  · next r =>
    obtain ⟨u', rest, hreach, hu', hleaves⟩ := hrest r s' t' hget'
    exact ⟨u', rest, hreach, hu', hleaves⟩
  · exact ⟨t', [], Reaches.refl t', hget', some ⟨tag, op, f, none⟩, ⟨k, hk, rfl⟩, rfl⟩

/-- One segment of a function that leaves the component alone. -/
theorem Aside.runSegment {p : Async τ (FamilyAns Own Ans) ε Unit}
    (h : Aside i V missing P Allowed tag p s) (hget : V.get s = some u) :
    ∃ u' new, Reaches i P Allowed u u' new ∧ V.get (Program.runSegment tag p s).1 = some u' ∧
      Leaves i V missing P Allowed (Program.runSegment tag p s).2 new := by
  induction h generalizing u with
  | ret => exact ⟨u, [], Reaches.refl u, hget, rfl⟩
  | fail => exact ⟨u, [], Reaches.refl u, hget, rfl⟩
  | read h ih => exact ih hget
  | write hget' h ih => exact ih (hget'.trans hget)
  | @await op k s hop h ih => exact ⟨u, [], Reaches.refl u, hget, none, ⟨hop, h⟩, rfl⟩
  | start hget' hq h ih =>
    cases hget'.symm.trans hget
    obtain ⟨u', rest, hreach, hu', hleaves⟩ := runSegment_followedBy hget h ih
    exact ⟨u', _, hq.trans hreach, hu', hleaves⟩

/-- The same where the component is not there. -/
theorem Aside.runSegment_absent {p : Async τ (FamilyAns Own Ans) ε Unit}
    (h : Aside i V missing P Allowed tag p s) (hget : V.get s = none) :
    V.get (Program.runSegment tag p s).1 = none ∧
      ∀ T ∈ (Program.runSegment tag p s).2, Hosted i V missing P Allowed T none := by
  induction h with
  | ret => exact ⟨hget, nofun⟩
  | fail => exact ⟨hget, nofun⟩
  | read h ih => exact ih hget
  | write hget' h ih => exact ih (hget'.trans hget)
  | await hop h ih =>
    refine ⟨hget, fun T hT => ?_⟩
    cases hT
    exact ⟨hop, h⟩
  | start hget' => cases hget'.symm.trans hget

/-! ### The suspended functions -/

theorem Leaves.forall₂ {T? : Option (Task τ (FamilyAns Own Ans) ε Tag)}
    {new : List (Task (σ i) (Ans i) ε Tag)} (h : Leaves i V missing P Allowed T? new) :
    ∃ os, List.Forall₂ (Hosted i V missing P Allowed) T?.toList os ∧ os.reduceOption = new := by
  cases T? with
  | none => exact ⟨[], .nil, h.symm⟩
  | some T =>
    obtain ⟨o, ho, rfl⟩ := h
    exact ⟨[o], .cons ho .nil, List.reduceOption_singleton o⟩

/-- What an event leaves of the suspended functions. -/
theorem Hosted.filter {Ts : List (Task τ (FamilyAns Own Ans) ε Tag)}
    {os : List (Option (Task (σ i) (Ans i) ε Tag))} (f : Tag → Bool)
    (h : List.Forall₂ (Hosted i V missing P Allowed) Ts os) :
    ∃ os', List.Forall₂ (Hosted i V missing P Allowed) (Ts.filter fun T => f T.tag) os' ∧
      os'.reduceOption = os.reduceOption.filter fun t => f t.tag := by
  induction h with
  | nil => exact ⟨[], .nil, rfl⟩
  | @cons T o Ts os hhead htail ih =>
    obtain ⟨os', hos', heq⟩ := ih
    by_cases hT : f T.tag
    · refine ⟨o :: os', ?_, ?_⟩
      · simp only [List.filter_cons, hT, if_true]
        exact .cons hhead hos'
      · cases o with
        | none => exact heq
        | some t =>
          obtain ⟨k, -, rfl⟩ := hhead
          change f t.tag = true at hT
          simp only [List.reduceOption_cons_of_some, List.filter_cons, hT, if_true, heq]
    · refine ⟨os', ?_, ?_⟩
      · simp only [List.filter_cons, hT]
        exact hos'
      · cases o with
        | none => exact heq
        | some t =>
          obtain ⟨k, -, rfl⟩ := hhead
          change ¬ f t.tag = true at hT
          simp only [List.reduceOption_cons_of_some, List.filter_cons, hT, heq]
          rfl

/-- One more suspended function, or none. -/
theorem tracks_append {Ts : List (Task τ (FamilyAns Own Ans) ε Tag)}
    {T? : Option (Task τ (FamilyAns Own Ans) ε Tag)} {ts new : List (Task (σ i) (Ans i) ε Tag)}
    {os : List (Option (Task (σ i) (Ans i) ε Tag))} (hget : V.get s = some u)
    (hTs : List.Forall₂ (Hosted i V missing P Allowed) Ts os) (hos : os.reduceOption.Perm ts)
    (hleaves : Leaves i V missing P Allowed T? new) :
    Tracks i V missing P Allowed ⟨s, Ts ++ T?.toList⟩ ⟨u, ts ++ new⟩ := by
  obtain ⟨os', hos', rfl⟩ := hleaves.forall₂
  refine ⟨hget, os ++ os', List.rel_append hTs hos', ?_⟩
  rw [List.reduceOption_append]
  exact hos.append_right _

end Steps

/-! ### Positions in the two pools -/

section Positions

variable {α β : Type}

/-- What stands at a position is taken out, or something else is put there. -/
def replace (l : List α) (n : Nat) : Option α → List α
  | none => l.eraseIdx n
  | some a => l.set n a

theorem replace_perm {l : List α} {n : Nat} (h : n < l.length) (a : Option α) :
    (replace l n a).Perm (a.toList ++ l.eraseIdx n) := by
  cases a with
  | none => exact .refl _
  | some a => exact List.set_perm_cons_eraseIdx h a

theorem replace_concat_length (l : List α) (b : α) (a : Option α) :
    replace (l ++ [b]) l.length a = l ++ a.toList := by
  cases a with
  | none => simp [replace, List.eraseIdx_append_of_length_le]
  | some a => simp [replace]

theorem reduceOption_set_perm {os : List (Option α)} {n : Nat} (h : n < os.length) (o : Option α) :
    (os.set n o).reduceOption.Perm (o.toList ++ (os.eraseIdx n).reduceOption) := by
  have hperm := (List.set_perm_cons_eraseIdx h o).filterMap id
  cases o <;> exact hperm

theorem reduceOption_perm {os : List (Option α)} {n : Nat} {o : Option α} (h : os[n]? = some o) :
    os.reduceOption.Perm (o.toList ++ (os.eraseIdx n).reduceOption) := by
  obtain ⟨hn, rfl⟩ := List.getElem?_eq_some_iff.1 h
  have hperm := reduceOption_set_perm hn os[n]
  rwa [List.set_getElem_self] at hperm

/-- One of the present ones, and the others. -/
theorem exists_position_of_perm {os : List (Option α)} {ts : List α} {n : Nat} {t : α}
    (h : os.reduceOption.Perm ts) (ht : os[n]? = some (some t)) :
    ∃ j, ts[j]? = some t ∧ j < ts.length ∧
      (os.eraseIdx n).reduceOption.Perm (ts.eraseIdx j) := by
  have hos := reduceOption_perm ht
  have hmem : t ∈ ts := h.mem_iff.1 (hos.mem_iff.2 List.mem_cons_self)
  obtain ⟨j, hj, hget⟩ := List.getElem_of_mem hmem
  have hts := List.getElem_cons_eraseIdx_perm hj
  rw [hget] at hts
  refine ⟨j, by rw [List.getElem?_eq_getElem hj, hget], hj, ?_⟩
  exact (hos.symm.trans (h.trans hts.symm)).cons_inv

theorem forall₂_position {R : α → β → Prop} {l : List α} {l' : List β} {n : Nat} {a : α}
    (h : List.Forall₂ R l l') (ha : l[n]? = some a) :
    ∃ b, l'[n]? = some b ∧ R a b ∧ List.Forall₂ R (l.eraseIdx n) (l'.eraseIdx n) ∧
      ∀ a' b', R a' b' → List.Forall₂ R (l.set n a') (l'.set n b') := by
  induction h generalizing n with
  | nil => cases ha
  | @cons a₀ b₀ l l' hhead htail ih =>
    cases n with
    | zero =>
      cases ha
      exact ⟨b₀, rfl, hhead, htail, fun a' b' h => .cons h htail⟩
    | succ n =>
      obtain ⟨b, hb, hR, herase, hset⟩ := ih ha
      exact ⟨b, hb, hR, .cons hhead herase, fun a' b' h => .cons hhead (hset a' b' h)⟩

end Positions

section Run

variable {i V missing P Allowed W WAllowed New}
  {c c' : Pool τ (FamilyAns Own Ans) ε Tag} {d : Pool (σ i) (Ans i) ε Tag}

theorem Tracks.event (hW : Hosts i V missing P Allowed W WAllowed New) {e : WEvt}
    (h : Tracks i V missing P Allowed c d) (hall : WAllowed c.store (.event e))
    (hstep : W.step c (.event e) = some c') :
    ∃ ls d', P.system.run d ls = some d' ∧ P.system.Meets (Program.Allows Allowed) d ls ∧
      Tracks i V missing P Allowed c' d' := by
  obtain ⟨os, hos, hperm⟩ := h.tasks
  obtain ⟨os', hos', heq⟩ := Hosted.filter (fun tag => !W.kills e tag) hos
  have hperm' : os'.reduceOption.Perm (d.tasks.filter fun t => !W.kills e t.tag) :=
    heq ▸ hperm.filter _
  have hnext : ∀ {s next}, W.event e c.store = some (s, next) →
      HostedEvent i V missing P Allowed (W.kills e) d.store s next :=
    fun hev => hW.event hev hall h.store
  simp only [Program.step] at hstep
  split at hstep
  · cases hstep
  · next s hev =>
    cases hstep
    cases hnext hev with
    | aside hkills hget _ =>
      simp only [hkills, Bool.not_false, List.filter_true] at hos' hperm' ⊢
      exact ⟨[], d, rfl, trivial, hget, os', hos', hperm'⟩
    | @event e' t hallowed hkills hget hevent =>
      simp only [hkills] at hos' hperm' ⊢
      refine ⟨[.event e'], ⟨t, _⟩, ?_, ⟨?_, fun _ _ => trivial⟩, hget, os', hos', hperm'⟩
      · simp [System.run_cons, Program.system, Program.step, hevent]
      · intro a ha
        cases ha
        exact hallowed
  · next s tag p hev =>
    cases hstep
    cases hnext hev with
    | aside hkills hget hp =>
      simp only [hkills, Bool.not_false, List.filter_true] at hos' hperm' ⊢
      obtain ⟨u', new, hreach, hget', hleaves⟩ := (hp tag p rfl).runSegment hget
      obtain ⟨ls, hrun, hmeets⟩ := hreach d.tasks
      exact ⟨ls, _, hrun, hmeets, tracks_append hget' hos' hperm' hleaves⟩
    | @start e' t _ q k hallowed hkills hget hevent hk =>
      simp only [hkills] at hos' hperm' ⊢
      obtain ⟨u', rest, hreach, hget', hleaves⟩ :=
        runSegment_followedBy (q := q) hget hk fun r s u h => (hk r s).runSegment h
      obtain ⟨ls, hrun, hmeets⟩ := hreach
        ((d.tasks.filter fun t => !P.kills e' t.tag) ++ (Program.runSegment tag q t).2.toList)
      have hstep : P.system.step d (.event e') = some ⟨(Program.runSegment tag q t).1,
          (d.tasks.filter fun t => !P.kills e' t.tag) ++
            (Program.runSegment tag q t).2.toList⟩ := by
        simp only [Program.system, Program.step, hevent]
      rw [List.append_assoc] at hrun
      refine ⟨.event e' :: ls, _, ?_, ⟨?_, ?_⟩, tracks_append hget' hos' hperm' hleaves⟩
      · rw [System.run_cons, hstep]
        exact hrun
      · intro a ha
        cases ha
        exact hallowed
      · intro d' hd'
        cases hstep.symm.trans hd'
        exact hmeets

theorem step_resume {P : Program (σ i) (Ans i) ε Evt Ω Tag} {n : Nat}
    {t : Task (σ i) (Ans i) ε Tag} {r : Except ε (Ans i t.op)} (ht : d.tasks[n]? = some t)
    (hr : t.reply = some r) :
    P.system.step d (.resume n) = some ⟨(Program.runSegment t.tag (t.next r) d.store).1,
      replace d.tasks n (Program.runSegment t.tag (t.next r) d.store).2⟩ := by
  obtain ⟨tag, op, next, _ | r'⟩ := t
  · cases hr
  · cases hr
    simp only [Program.system, Program.step, ht]
    generalize Program.runSegment tag (next r') d.store = x
    obtain ⟨u, _ | t⟩ := x <;> rfl

theorem Tracks.answer (hW : Hosts i V missing P Allowed W WAllowed New) {n : Nat} {o : WΩ}
    (h : Tracks i V missing P Allowed c d) (hall : Program.Allows WAllowed c (.answer n o))
    (hstep : W.step c (.answer n o) = some c') :
    ∃ ls d', P.system.run d ls = some d' ∧ P.system.Meets (Program.Allows Allowed) d ls ∧
      Tracks i V missing P Allowed c' d' := by
  obtain ⟨os, hos, hperm⟩ := h.tasks
  simp only [Program.step] at hstep
  split at hstep
  · next tag op next htask =>
    obtain ⟨x, hx, hhosted, -, hset⟩ := forall₂_position hos htask
    have hallowed : WAllowed c.store (.answer op o) := hall _ (by simp [Program.action, htask])
    split at hstep
    · cases hstep
    · next r s hans =>
      cases hstep
      cases x with
      | none =>
        obtain ⟨u', hreach, hget⟩ := (hW.other hhosted.1 hans hallowed).2 _ h.store
        obtain ⟨ls, hrun, hmeets⟩ := hreach d.tasks
        rw [List.append_nil] at hrun
        refine ⟨ls, _, hrun, hmeets, hget, _, hset _ none hhosted, ?_⟩
        exact (reduceOption_set_perm (List.getElem?_eq_some_iff.1 hx).1 none).trans
          ((reduceOption_perm hx).symm.trans hperm)
      | some t =>
        obtain ⟨k, hk, heq⟩ := hhosted
        obtain ⟨tag', op', next', _ | reply'⟩ := t <;> cases heq
        obtain ⟨o', u', hans', hallowed', hget⟩ := hW.answer hans hallowed h.store
        obtain ⟨j, hj, hlt, hrest⟩ := exists_position_of_perm hperm hx
        have hset' := hset _ (some ⟨tag', op', next', some r⟩) ⟨k, hk, rfl⟩
        refine ⟨[.answer j o'], ⟨u', d.tasks.set j ⟨tag', op', next', some r⟩⟩, ?_,
          ⟨?_, fun _ _ => trivial⟩, hget, _, hset', ?_⟩
        · simp [System.run_cons, Program.system, Program.step, hj, hans']
        · intro a ha
          simp only [Program.action, hj, Option.map_some, Option.mem_def, Option.some.injEq] at ha
          exact ha ▸ hallowed'
        · exact (reduceOption_set_perm (List.getElem?_eq_some_iff.1 hx).1 _).trans
            ((hrest.cons _).trans (List.set_perm_cons_eraseIdx hlt _).symm)
  · cases hstep

/-- A task that goes on or ends. -/
theorem tracks_replace {os : List (Option (Task (σ i) (Ans i) ε Tag))} {n : Nat}
    {Ts : List (Task τ (FamilyAns Own Ans) ε Tag)} {T : Task τ (FamilyAns Own Ans) ε Tag}
    {T? : Option (Task τ (FamilyAns Own Ans) ε Tag)} {s : τ} {u : σ i}
    {ts new : List (Task (σ i) (Ans i) ε Tag)} (hget : V.get s = some u)
    (hos : List.Forall₂ (Hosted i V missing P Allowed) Ts os) (hT : Ts[n]? = some T)
    (hleaves : Leaves i V missing P Allowed T? new)
    (hperm : (new ++ (os.eraseIdx n).reduceOption).Perm ts) :
    Tracks i V missing P Allowed ⟨s, replace Ts n T?⟩ ⟨u, ts⟩ := by
  obtain ⟨o, ho, -, herase, hset⟩ := forall₂_position hos hT
  refine ⟨hget, ?_⟩
  cases T? with
  | none =>
    cases hleaves
    exact ⟨_, herase, hperm⟩
  | some T' =>
    obtain ⟨o', ho', rfl⟩ := hleaves
    have hn := (List.getElem?_eq_some_iff.1 ho).1
    exact ⟨_, hset _ _ ho', (reduceOption_set_perm hn o').trans hperm⟩

theorem Tracks.resume (hW : Hosts i V missing P Allowed W WAllowed New) {n : Nat}
    (h : Tracks i V missing P Allowed c d) (hall : Program.Allows WAllowed c (.resume n))
    (hstep : W.step c (.resume n) = some c') :
    ∃ ls d', P.system.run d ls = some d' ∧ P.system.Meets (Program.Allows Allowed) d ls ∧
      Tracks i V missing P Allowed c' d' := by
  obtain ⟨os, hos, hperm⟩ := h.tasks
  simp only [Program.step] at hstep
  split at hstep
  · next tag op next r htask =>
    have hc : c' = ⟨(Program.runSegment tag (next r) c.store).1,
        replace c.tasks n (Program.runSegment tag (next r) c.store).2⟩ := by
      split at hstep <;> next hseg =>
        cases hstep
        rw [hseg]
        rfl
    subst hc
    obtain ⟨x, hx, hhosted, -⟩ := forall₂_position hos htask
    have hallowed : WAllowed c.store (.resume op r) := hall _ (by simp [Program.action, htask])
    cases x with
    | none =>
      obtain ⟨u', new, hreach, hget, hleaves⟩ := (hhosted.2 r c.store).runSegment h.store
      obtain ⟨ls, hrun, hmeets⟩ := hreach d.tasks
      refine ⟨ls, _, hrun, hmeets, tracks_replace hget hos htask hleaves ?_⟩
      exact List.perm_append_comm.trans (((reduceOption_perm hx).symm.trans hperm).append_right _)
    | some t =>
      obtain ⟨k, hk, heq⟩ := hhosted
      obtain ⟨tag', op', next', _ | reply'⟩ := t <;> cases heq
      obtain ⟨j, hj, hlt, hrest⟩ := exists_position_of_perm hperm hx
      have hstep := step_resume (P := P) hj rfl
      obtain ⟨u', rest, hreach, hget, hleaves⟩ :=
        runSegment_followedBy (q := next' reply') h.store hk fun r s u h => (hk r s).runSegment h
      have hperm' : ((Program.runSegment tag' (next' reply') d.store).2.toList ++ rest ++
          (os.eraseIdx n).reduceOption).Perm
          (replace d.tasks j (Program.runSegment tag' (next' reply') d.store).2 ++ rest) := by
        rw [List.append_assoc]
        refine ((List.perm_append_comm.trans (hrest.append_right rest)).append_left _).trans ?_
        rw [← List.append_assoc]
        exact (replace_perm hlt _).symm.append_right rest
      obtain ⟨ls, hrun, hmeets⟩ := hreach
        (replace d.tasks j (Program.runSegment tag' (next' reply') d.store).2)
      refine ⟨.resume j :: ls, ⟨u', _⟩, ?_, ⟨?_, ?_⟩,
        tracks_replace hget hos htask hleaves hperm'⟩
      · rw [System.run_cons, hstep]
        exact hrun
      · intro a ha
        simp only [Program.action, hj, Option.bind_some, Option.map_some, Option.mem_def,
          Option.some.injEq] at ha
        exact ha ▸ hW.resume hallowed h.store
      · intro d' hd'
        cases hstep.symm.trans hd'
        exact hmeets
  · cases hstep

theorem Tracks.step (hW : Hosts i V missing P Allowed W WAllowed New) {l : Label WEvt WΩ}
    (h : Tracks i V missing P Allowed c d) (hall : Program.Allows WAllowed c l)
    (hstep : W.step c l = some c') :
    ∃ ls d', P.system.run d ls = some d' ∧ P.system.Meets (Program.Allows Allowed) d ls ∧
      Tracks i V missing P Allowed c' d' := by
  cases l with
  | event e => exact h.event hW (hall _ rfl) hstep
  | answer n o => exact h.answer hW hall hstep
  | resume n => exact h.resume hW hall hstep

/-- **Refinement.** A run of the large program is a run of each of its components. -/
theorem tracks_run (hW : Hosts i V missing P Allowed W WAllowed New) {ls : List (Label WEvt WΩ)}
    (h : Tracks i V missing P Allowed c d)
    (hall : W.system.Meets (Program.Allows WAllowed) c ls) (hrun : W.system.run c ls = some c') :
    ∃ ls' d', P.system.run d ls' = some d' ∧ P.system.Meets (Program.Allows Allowed) d ls' ∧
      Tracks i V missing P Allowed c' d' := by
  refine System.run_invariant (M := W.system) (C := Program.Allows WAllowed)
    (I := fun c => ∃ ls' d', P.system.run d ls' = some d' ∧
      P.system.Meets (Program.Allows Allowed) d ls' ∧ Tracks i V missing P Allowed c d')
    ?_ ⟨[], d, rfl, trivial, h⟩ hall hrun
  rintro c l c' ⟨ls', d', hrun', hmeets', h'⟩ hl hstep
  obtain ⟨ls'', d'', hrun'', hmeets'', h''⟩ := h'.step hW hl hstep
  exact ⟨ls' ++ ls'', d'', System.run_append hrun' hrun'', hmeets'.append hrun' hmeets'', h''⟩

/-- What is not there is left alone, or made. -/
theorem Absent.step (hW : Hosts i V missing P Allowed W WAllowed New) {l : Label WEvt WΩ}
    (h : Absent i V missing P Allowed c) (hall : Program.Allows WAllowed c l)
    (hstep : W.step c l = some c') :
    Absent i V missing P Allowed c' ∨
      ∃ u, New u ∧ Tracks i V missing P Allowed c' ⟨u, []⟩ := by
  cases l with
  | event e =>
    have halive : ∀ T ∈ c.tasks.filter fun T => !W.kills e T.tag,
        Hosted i V missing P Allowed T none :=
      fun T hT => h.tasks T (List.mem_of_mem_filter hT)
    simp only [Program.step] at hstep
    split at hstep
    · cases hstep
    · next s hev =>
      cases hstep
      obtain ⟨hget, -⟩ | ⟨-, u, hget, hu⟩ := hW.absent hev (hall _ rfl) h.store
      · exact .inl ⟨hget, halive⟩
      · refine .inr ⟨u, hu, hget, List.map (fun _ => none)
          (c.tasks.filter fun T => !W.kills e T.tag), ?_, ?_⟩
        · rw [List.forall₂_map_right_iff, List.forall₂_same]
          exact halive
        · rw [List.map_const', List.reduceOption_replicate_none]
    · next s tag p hev =>
      cases hstep
      obtain ⟨hget, hp⟩ | ⟨hnext, -⟩ := hW.absent hev (hall _ rfl) h.store
      · obtain ⟨hget', hleft⟩ := (hp tag p rfl).runSegment_absent hget
        refine .inl ⟨hget', fun T hT => ?_⟩
        rcases List.mem_append.1 hT with hT | hT
        · exact halive T hT
        · exact hleft T (Option.mem_toList.1 hT)
      · cases hnext
  | answer n o =>
    simp only [Program.step] at hstep
    split at hstep
    · next tag op next htask =>
      have hhosted := h.tasks _ (List.mem_of_getElem? htask)
      have hallowed : WAllowed c.store (.answer op o) := hall _ (by simp [Program.action, htask])
      split at hstep
      · cases hstep
      · next r s hans =>
        cases hstep
        refine .inl ⟨(hW.other hhosted.1 hans hallowed).1 h.store, fun T hT => ?_⟩
        rcases List.mem_or_eq_of_mem_set hT with hT | rfl
        · exact h.tasks T hT
        · exact hhosted
    · cases hstep
  | resume n =>
    simp only [Program.step] at hstep
    split at hstep
    · next tag op next r htask =>
      have hhosted := h.tasks _ (List.mem_of_getElem? htask)
      obtain ⟨hget, hleft⟩ := (hhosted.2 r c.store).runSegment_absent h.store
      split at hstep
      · next s hseg =>
        cases hstep
        rw [hseg] at hget
        exact .inl ⟨hget, fun T hT => h.tasks T (List.mem_of_mem_eraseIdx hT)⟩
      · next s T' hseg =>
        cases hstep
        rw [hseg] at hget hleft
        refine .inl ⟨hget, fun T hT => ?_⟩
        rcases List.mem_or_eq_of_mem_set hT with hT | rfl
        · exact h.tasks T hT
        · exact hleft T rfl
    · cases hstep

/-- A component that is there after a run of the large program, and was not before, has run since
it was made. -/
theorem absent_run (hW : Hosts i V missing P Allowed W WAllowed New) {ls : List (Label WEvt WΩ)}
    (h : Absent i V missing P Allowed c)
    (hall : W.system.Meets (Program.Allows WAllowed) c ls) (hrun : W.system.run c ls = some c') :
    Absent i V missing P Allowed c' ∨ ∃ u ls' d', New u ∧ P.system.run ⟨u, []⟩ ls' = some d' ∧
      P.system.Meets (Program.Allows Allowed) ⟨u, []⟩ ls' ∧ Tracks i V missing P Allowed c' d' := by
  refine System.run_invariant (M := W.system) (C := Program.Allows WAllowed)
    (I := fun c => Absent i V missing P Allowed c ∨ ∃ u ls' d', New u ∧
      P.system.run ⟨u, []⟩ ls' = some d' ∧ P.system.Meets (Program.Allows Allowed) ⟨u, []⟩ ls' ∧
        Tracks i V missing P Allowed c d')
    ?_ (.inl h) hall hrun
  rintro c l c' (hc | ⟨u, ls', d', hu, hrun', hmeets', hd'⟩) hl hstep
  · rcases hc.step hW hl hstep with hc' | ⟨u, hu, htracks⟩
    · exact .inl hc'
    · exact .inr ⟨u, [], ⟨u, []⟩, hu, rfl, trivial, htracks⟩
  · obtain ⟨ls'', d'', hrun'', hmeets'', h''⟩ := hd'.step hW hl hstep
    exact .inr ⟨u, ls' ++ ls'', d'', hu, System.run_append hrun' hrun'',
      hmeets'.append hrun' hmeets'', h''⟩

/-- The call of a component. -/
def callOf [DecidableEq ι] (i : ι) : A ⊕ (Σ i, Op i) → Option (Op i)
  | .inl _ => none
  | .inr ⟨j, op⟩ => if h : j = i then some (h ▸ op) else none

theorem callOf_eq_none [DecidableEq ι] {op : A ⊕ (Σ i, Op i)} (h : ∀ o, op ≠ .inr ⟨i, o⟩) :
    callOf i op = none := by
  obtain _ | ⟨j, o⟩ := op
  · rfl
  · refine dif_neg ?_
    rintro rfl
    exact h o rfl

theorem callOf_self [DecidableEq ι] (op : Op i) :
    callOf i (.inr ⟨i, op⟩ : A ⊕ (Σ i, Op i)) = some op := dif_pos rfl

theorem callOf_eq_some [DecidableEq ι] {o : A ⊕ (Σ i, Op i)} {op : Op i}
    (h : callOf i o = some op) : o = .inr ⟨i, op⟩ := by
  obtain _ | ⟨j, o⟩ := o
  · cases h
  · by_cases hji : j = i
    · subst hji
      rw [callOf_self] at h
      cases h
      rfl
    · rw [callOf, dif_neg hji] at h
      cases h

/-- The component waits for what the large program waits for in its name. -/
theorem Tracks.calls [DecidableEq ι] (h : Tracks i V missing P Allowed c d) :
    (c.tasks.filterMap fun T => callOf i T.op).Perm (d.tasks.map (·.op)) := by
  obtain ⟨os, hos, hperm⟩ := h.tasks
  have hcalls : (c.tasks.filterMap fun T => callOf i T.op) = os.reduceOption.map (·.op) := by
    generalize c.tasks = Ts at hos
    clear hperm
    induction hos with
    | nil => rfl
    | @cons T o Ts os hhead htail ih =>
      cases o with
      | none =>
        rw [List.filterMap_cons, callOf_eq_none hhead.1]
        exact ih
      | some t =>
        obtain ⟨k, -, rfl⟩ := hhead
        have hcall : callOf i (t.via V missing k).op = some t.op := callOf_self t.op
        rw [List.filterMap_cons, hcall, ih, List.reduceOption_cons_of_some, List.map_cons]
  rw [hcalls]
  exact hperm.map _

/-- A call of the component that has not been answered is one of its own program. -/
theorem Tracks.pending (h : Tracks i V missing P Allowed c d)
    {T : Task τ (FamilyAns Own Ans) ε Tag} (hT : T ∈ c.tasks) {op : Op i}
    (hop : T.op = .inr ⟨i, op⟩) (hreply : T.reply = none) :
    ∃ t ∈ d.tasks, t.op = op ∧ t.reply = none := by
  obtain ⟨os, hos, hperm⟩ := h.tasks
  obtain ⟨n, hn⟩ := List.mem_iff_getElem?.1 hT
  obtain ⟨o, ho, hhosted, -⟩ := forall₂_position hos hn
  cases o with
  | none => exact absurd hop (hhosted.1 op)
  | some t =>
    obtain ⟨k, -, rfl⟩ := hhosted
    cases hop
    exact ⟨t, hperm.mem_iff.1 ((reduceOption_perm ho).mem_iff.2 List.mem_cons_self), rfl, hreply⟩

theorem Absent.calls [DecidableEq ι] (h : Absent i V missing P Allowed c) :
    ∀ T ∈ c.tasks, callOf i T.op = none :=
  fun T hT => callOf_eq_none (h.tasks T hT).1

end Run

/-! ### Other components -/

section Other

variable {i V missing P Allowed} {j : ι}

/-- A function that reads its store at once ends where the component is not there. -/
theorem aside_missing {V' : View τ (σ j)} {tag : Tag} {f : σ j → Async (σ j) (Ans j) ε Unit}
    {k : Except ε Unit → Async τ (FamilyAns Own Ans) ε Unit} {s : τ} (hget : V'.get s = none)
    (hk : Aside i V missing P Allowed tag (k (.error missing)) s) :
    Aside i V missing P Allowed tag (((Async.read f).via V' missing).followedBy k) s := by
  simp only [Async.via, followedBy]
  refine .read ?_
  simp only [hget]
  exact hk

/-- The functions of another component leave this one alone, if they keep what both share. -/
theorem aside_via {V' : View τ (σ j)} {Keeps : σ j → σ j → Prop} (hij : j ≠ i)
    (hframe : ∀ {s u u'}, V'.get s = some u → Keeps u u' → V.get (V'.set u' s) = V.get s)
    {tag : Tag} {q : Async (σ j) (Ans j) ε Unit}
    {k : Except ε Unit → Async τ (FamilyAns Own Ans) ε Unit} {s : τ} {u : σ j}
    (hu : ∀ u', V'.get s = some u' → u' = u) (hq : (keeping Keeps).Follows q Moves.Anyhow () u)
    (hk : ∀ r s, Aside i V missing P Allowed tag (k r) s) :
    Aside i V missing P Allowed tag ((q.via V' missing).followedBy k) s := by
  induction q generalizing s u with
  | ret a => exact hk _ s
  | fail e => exact hk _ s
  | read f ih =>
    simp only [Async.via, followedBy]
    refine .read ?_
    split
    · next u' hget =>
      cases hu u' hget
      exact ih u hu hq
    · exact hk _ s
  | write t f ih =>
    obtain ⟨⟨⟩, hkeeps, hq⟩ := hq
    simp only [Async.via, followedBy]
    refine .read ?_
    cases hget : V'.get s with
    | none =>
      rw [V'.set_none hget]
      refine .write rfl (ih (fun u' h => ?_) hq)
      cases hget.symm.trans h
    | some u' =>
      cases hu u' hget
      refine .write (hframe hget hkeeps) (ih (fun u'' h => ?_) hq)
      exact Option.some.inj (h.symm.trans (V'.get_set hget))
  | await op f ih =>
    obtain ⟨⟨⟩, -, hq⟩ := hq
    refine .await (fun o h => hij ?_) fun r s => ?_
    · cases h
      rfl
    refine ih r (u := (V'.get s).getD u) (fun u' h => ?_) (hq r _)
    rw [h, Option.getD_some]

end Other

end

end CotServer
