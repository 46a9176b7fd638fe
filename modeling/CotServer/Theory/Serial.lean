import CotServer.Theory.Interleaving
import Mathlib.Data.List.Perm.Basic
import Mathlib.Logic.Function.Basic

/-!
# Serial orders

Clients run functions that share one value. A function leaves the store alone and only calls: most
of its calls are its own, one may read the value, and its last one may write it. What a client's
own calls find can be different from call to call, and is the same in every order of the functions.

`Clients.program` interleaves the functions. `Clients.serializable` says when the value at the end
is one that the functions give one after another: when each write that takes effect finds the value
that its function has read.
-/

namespace CotServer

open Async

namespace Async

variable {σ Op : Type} {Ans : Op → Type} {ε α β : Type}

/-- Runs the function to its end, with every operation answered at once. -/
def complete (answer : (op : Op) → σ → Except ε (Ans op) × σ) :
    Async σ Ans ε α → σ → Except ε α × σ
  | ret a, s => (.ok a, s)
  | fail e, s => (.error e, s)
  | read k, s => (k s).complete answer s
  | write t k, _ => k.complete answer t
  | await op k, s => (k (answer op s).1).complete answer (answer op s).2

/-- The function is at its end. -/
def Ended : Async σ Ans ε α → Prop
  | ret _ => True
  | fail _ => True
  | _ => False

/-- The function only calls, and only what `A` allows. -/
def Asks (A : Op → Prop) : Async σ Ans ε α → Prop
  | ret _ => True
  | fail _ => True
  | read _ => False
  | write .. => False
  | await op k => A op ∧ ∀ r, Asks A (k r)

section

variable {A : Op → Prop}

theorem Asks.pure {a : α} : Asks A (Pure.pure a : Async σ Ans ε α) := trivial

theorem Asks.settle {r : Except ε α} : Asks A (settle r : Async σ Ans ε α) := by
  cases r <;> exact trivial

theorem Asks.throwIf {c : Prop} [Decidable c] {e : ε} :
    Asks A (throwIf c e : Async σ Ans ε Unit) := by
  unfold Async.throwIf
  split <;> exact trivial

theorem Asks.call {op : Op} (h : A op) : Asks A (call op : Async σ Ans ε _) :=
  ⟨h, fun _ => Asks.settle⟩

theorem Asks.bind {p : Async σ Ans ε α} {f : α → Async σ Ans ε β} (hp : Asks A p)
    (hf : ∀ a, Asks A (f a)) : Asks A (p >>= f) := by
  rw [bind_def]
  induction p with
  | ret a => exact hf a
  | fail e => exact trivial
  | read k => exact hp.elim
  | write t k => exact hp.elim
  | await op k ih => exact ⟨hp.1, fun r => ih r (hp.2 r)⟩

theorem Asks.tryCatch {p : Async σ Ans ε α} {h : ε → Async σ Ans ε α} (hp : Asks A p)
    (hh : ∀ e, Asks A (h e)) : Asks A (tryCatch p h) := by
  rw [tryCatch_def]
  induction p with
  | ret a => exact trivial
  | fail e => exact hh e
  | read k => exact hp.elim
  | write t k => exact hp.elim
  | await op k ih => exact ⟨hp.1, fun r => ih r (hp.2 r)⟩

/-- A function that only makes calls whose answers respect a relation respects it. -/
theorem Asks.keeps {answer : (op : Op) → σ → Except ε (Ans op) → σ → Prop} {R : σ → σ → Prop}
    (hrefl : ∀ s, R s s) (htrans : ∀ s t u, R s t → R t u → R s u)
    (hanswer : ∀ op s r s', A op → answer op s r s' → R s s') {p : Async σ Ans ε α}
    (hp : Asks A p) : Keeps answer R p := by
  induction p with
  | ret a => exact Keeps.pure hrefl a
  | fail e => exact Keeps.throw hrefl e
  | read k => exact hp.elim
  | write t k => exact hp.elim
  | await op k ih =>
    rintro s r s' ⟨a, t, hans, hk⟩
    exact htrans s t s' (hanswer op s a t hp.1 hans) (ih a (hp.2 a) t r s' hk)

end

end Async

namespace Program

variable {σ Op : Type} {Ans : Op → Type} {ε Evt Ω Tag : Type} {P : Program σ Ans ε Evt Ω Tag}
  {c c' : Pool σ Ans ε Tag}

/-- What an answer does: one task has it, the others stay. -/
theorem step_answer {i : Nat} {o : Ω} (h : P.step c (.answer i o) = some c') :
    ∃ (t : Task σ Ans ε Tag) (r : Except ε (Ans t.op)) (ts : List (Task σ Ans ε Tag)),
      c.tasks[i]? = some t ∧ t.reply = none ∧ c.tasks.Perm (t :: ts) ∧
      P.answer t.op o c.store = some (r, c'.store) ∧
      c'.tasks.Perm ({ t with reply := some r } :: ts) := by
  simp only [step] at h
  split at h
  · next tag op next hget =>
    obtain ⟨hlt, htask⟩ := List.getElem?_eq_some_iff.1 hget
    split at h
    · cases h
    · next r s hans =>
      cases h
      refine ⟨_, r, c.tasks.eraseIdx i, hget, rfl, ?_, hans, List.set_perm_cons_eraseIdx hlt _⟩
      have hperm := List.getElem_cons_eraseIdx_perm hlt
      rw [htask] at hperm
      exact hperm.symm
  · cases h

/-- What a resumption does: one task runs a segment, the others stay. -/
theorem step_resume {i : Nat} (h : P.step c (.resume i) = some c') :
    ∃ (t : Task σ Ans ε Tag) (r : Except ε (Ans t.op)) (ts : List (Task σ Ans ε Tag)),
      t.reply = some r ∧ c.tasks.Perm (t :: ts) ∧
      c'.store = (runSegment t.tag (t.next r) c.store).1 ∧
      c'.tasks.Perm ((runSegment t.tag (t.next r) c.store).2.toList ++ ts) := by
  simp only [step] at h
  split at h
  · next tag op next r hget =>
    obtain ⟨hlt, htask⟩ := List.getElem?_eq_some_iff.1 hget
    have hperm := List.getElem_cons_eraseIdx_perm hlt
    rw [htask] at hperm
    refine ⟨_, r, c.tasks.eraseIdx i, rfl, hperm.symm, ?_⟩
    split at h
    · next s hrun =>
      cases h
      rw [hrun]
      exact ⟨rfl, .refl _⟩
    · next s t hrun =>
      cases h
      rw [hrun]
      exact ⟨rfl, List.set_perm_cons_eraseIdx hlt _⟩
  · cases h

end Program

/-- What a call of a client does to the shared value. -/
inductive Access where
  | own
  | read
  | write
  deriving DecidableEq

/-- The shared value, and what has been done so far. -/
structure Shared (V Req : Type) where
  value : V
  /-- What has been requested; a client runs the function of one request. -/
  started : List Req := []
  /-- How many calls a client has made. -/
  calls : Nat → Nat := fun _ => 0
  /-- The value that a client has read. -/
  seen : Nat → Option V := fun _ => none

/-- The functions that clients run, and the answers to their calls. -/
structure Clients (V : Type) {Op : Type} (Ans : Op → Type) (ε Req : Type) where
  function : Nat → Req → Async (Shared V Req) Ans ε Unit
  /-- Who calls. -/
  client : Op → Nat
  access : Op → Access
  /-- The answer to the `n`th call of the client. -/
  answer : Nat → (op : Op) → V → Except ε (Ans op) × V

namespace Clients

variable {V Op : Type} {Ans : Op → Type} {ε Req : Type} (C : Clients V Ans ε Req)

/-- The answer to a call, and what is noted of it. -/
def reply (op : Op) (s : Shared V Req) : Except ε (Ans op) × Shared V Req :=
  let answer := C.answer (s.calls (C.client op)) op s.value
  (answer.1, { s with
    value := answer.2
    calls := Function.update s.calls (C.client op) (s.calls (C.client op) + 1)
    seen := if C.access op = .read then Function.update s.seen (C.client op) (some s.value)
      else s.seen })

/-- The functions interleaved. -/
def program : Program (Shared V Req) Ans ε Req Unit (Req × Nat) where
  event req s := some ({ s with started := s.started ++ [req] },
    some ((req, s.started.length), C.function s.started.length req))
  kills _ _ := false
  answer op _ s := some (C.reply op s)

/-- The value after one function alone. -/
def alone (x : Req × Nat) (v : V) : V := ((C.function x.2 x.1).complete C.reply { value := v }).2.value

/-- The value after the functions, one after another. -/
def serial (order : List (Req × Nat)) (v : V) : V := order.foldl (fun v x => C.alone x v) v

/-- A write of a client that has read finds the value it has read, or takes no effect. -/
def Valid (s : Shared V Req) : Action Ans ε Req Unit → Prop
  | .answer op _ => C.access op = .write → ∀ v ∈ s.seen (C.client op),
    s.value = v ∨ ∀ w, (C.answer (s.calls (C.client op)) op w).2 = w
  | _ => True

/-- A function of the client, which may have read the value. -/
def Transaction (client : Nat) {α : Type} : Bool → Async (Shared V Req) Ans ε α → Prop
  | _, .ret _ => True
  | _, .fail _ => True
  | _, .read _ => False
  | _, .write .. => False
  | seen, .await op k => C.client op = client ∧
    (C.access op = .own → ∀ r, Transaction client seen (k r)) ∧
    (C.access op = .read → seen = false ∧ ∀ r, Transaction client true (k r)) ∧
    (C.access op = .write → ∀ r, (k r).Ended)

/-- The clients run transactions, and only writes change the value. -/
structure Lawful : Prop where
  function : ∀ client req, C.Transaction client false (C.function client req)
  own : ∀ n op v w, C.access op = .own → C.answer n op v = ((C.answer n op w).1, v)
  read : ∀ n op v, C.access op = .read → (C.answer n op v).2 = v

variable {C}

/-! ## Transactions -/

section

variable {client : Nat} {seen : Bool} {α β : Type}

theorem Transaction.of_asks {p : Async (Shared V Req) Ans ε α}
    (hp : p.Asks fun op => C.client op = client ∧ C.access op = .own) :
    C.Transaction client seen p := by
  induction p with
  | ret a => exact trivial
  | fail e => exact trivial
  | read k => exact hp.elim
  | write t k => exact hp.elim
  | await op k ih =>
    obtain ⟨⟨hclient, hown⟩, hk⟩ := hp
    refine ⟨hclient, fun _ r => ih r (hk r), fun hread => ?_, fun hwrite => ?_⟩
    · cases hown.symm.trans hread
    · cases hown.symm.trans hwrite

/-- A transaction that begins with calls of its own. -/
theorem Transaction.bind {p : Async (Shared V Req) Ans ε α} {f : α → Async (Shared V Req) Ans ε β}
    (hp : p.Asks fun op => C.client op = client ∧ C.access op = .own)
    (hf : ∀ a, C.Transaction client seen (f a)) : C.Transaction client seen (p >>= f) := by
  rw [bind_def]
  induction p with
  | ret a => exact hf a
  | fail e => exact trivial
  | read k => exact hp.elim
  | write t k => exact hp.elim
  | await op k ih =>
    obtain ⟨⟨hclient, hown⟩, hk⟩ := hp
    refine ⟨hclient, fun _ r => ih r (hk r), fun hread => ?_, fun hwrite => ?_⟩
    · cases hown.symm.trans hread
    · cases hown.symm.trans hwrite

theorem Transaction.read {op : Op} {f : Ans op → Async (Shared V Req) Ans ε β}
    (hclient : C.client op = client) (hread : C.access op = .read)
    (hf : ∀ a, C.Transaction client true (f a)) : C.Transaction client false (call op >>= f) := by
  refine ⟨hclient, fun hown => ?_, fun _ => ⟨rfl, fun r => ?_⟩, fun hwrite => ?_⟩
  · cases hread.symm.trans hown
  · cases r with
    | error e => exact trivial
    | ok a => exact hf a
  · cases hread.symm.trans hwrite

theorem Transaction.write {op : Op} (hclient : C.client op = client) (hwrite : C.access op = .write) :
    C.Transaction client seen (call op) := by
  refine ⟨hclient, fun hown => ?_, fun hread => ?_, fun _ r => ?_⟩
  · cases hwrite.symm.trans hown
  · cases hwrite.symm.trans hread
  · cases r <;> exact trivial

theorem Transaction.of_ended {p : Async (Shared V Req) Ans ε α} (h : p.Ended) :
    C.Transaction client seen p := by
  cases p with
  | ret a => exact trivial
  | fail e => exact trivial
  | _ => exact h.elim

/-- A handler that makes no calls. -/
theorem Transaction.tryCatch {p : Async (Shared V Req) Ans ε α}
    {h : ε → Async (Shared V Req) Ans ε α} (hp : C.Transaction client seen p)
    (hh : ∀ e, (h e).Ended) : C.Transaction client seen (tryCatch p h) := by
  rw [tryCatch_def]
  induction p generalizing seen with
  | ret a => exact trivial
  | fail e => exact .of_ended (hh e)
  | read k => exact hp.elim
  | write t k => exact hp.elim
  | await op k ih =>
    obtain ⟨hclient, hown, hread, hwrite⟩ := hp
    refine ⟨hclient, fun h r => ih r (hown h r), fun h => ?_, fun h r => ?_⟩
    · obtain ⟨hseen, hk⟩ := hread h
      exact ⟨hseen, fun r => ih r (hk r)⟩
    · have hended := hwrite h r
      cases hkr : k r with
      | ret a => simp [catchError, hkr, Ended]
      | fail e => simpa [catchError, hkr] using hh e
      | _ =>
        rw [hkr] at hended
        exact hended.elim

end

/-- What other clients have done does not matter to a transaction. -/
theorem Transaction.complete_congr {client : Nat} {seen : Bool} {α : Type}
    {p : Async (Shared V Req) Ans ε α} (hp : C.Transaction client seen p) {s t : Shared V Req}
    (hvalue : t.value = s.value) (hcalls : t.calls client = s.calls client) :
    (p.complete C.reply t).2.value = (p.complete C.reply s).2.value := by
  induction p generalizing seen s t with
  | ret a => exact hvalue
  | fail e => exact hvalue
  | read k => exact hp.elim
  | write u k => exact hp.elim
  | await op k ih =>
    obtain ⟨rfl, hown, hread, hwrite⟩ := hp
    have hanswer : (C.reply op t).1 = (C.reply op s).1 := by simp [reply, hvalue, hcalls]
    have hvalue' : (C.reply op t).2.value = (C.reply op s).2.value := by
      simp [reply, hvalue, hcalls]
    have hcalls' : (C.reply op t).2.calls (C.client op) = (C.reply op s).2.calls (C.client op) := by
      simp [reply, hcalls]
    rw [complete, complete, hanswer]
    cases haccess : C.access op with
    | own => exact ih _ (hown haccess _) hvalue' hcalls'
    | read => exact ih _ ((hread haccess).2 _) hvalue' hcalls'
    | write =>
      have hended : C.Transaction (C.client op) seen (k (C.reply op s).1) :=
        .of_ended (hwrite haccess _)
      exact ih _ hended hvalue' hcalls'

/-! ## What remains of a function -/

variable {x : Req × Nat} {p : Async (Shared V Req) Ans ε Unit} {s t : Shared V Req} {v w : V}

variable (C) in
/-- `p` remains of the function of `x`: where the client has made as many calls, and the value is
the one that it has read, `p` ends as the whole function does. -/
structure Part (x : Req × Nat) (p : Async (Shared V Req) Ans ε Unit) (s : Shared V Req) : Prop where
  transaction : C.Transaction x.2 (s.seen x.2).isSome p
  ends : ∀ t : Shared V Req, t.calls x.2 = s.calls x.2 → t.seen x.2 = s.seen x.2 →
    (∀ v ∈ s.seen x.2, t.value = v) → (p.complete C.reply t).2.value = C.alone x t.value

/-- What another client does leaves a function as it is. -/
theorem Part.later (h : C.Part x p s) (hcalls : t.calls x.2 = s.calls x.2)
    (hseen : t.seen x.2 = s.seen x.2) : C.Part x p t := by
  obtain ⟨htransaction, hends⟩ := h
  constructor
  · rw [hseen]
    exact htransaction
  · rw [hcalls, hseen]
    exact hends

/-- A function at its end, or whose last write takes no effect. -/
def Neutral (C : Clients V Ans ε Req) (s : Shared V Req) (x : Req × Nat)
    (p : Async (Shared V Req) Ans ε Unit) : Prop :=
  ∀ t : Shared V Req, t.calls x.2 = s.calls x.2 → (p.complete C.reply t).2.value = t.value

theorem neutral_of_ended (h : p.Ended) : C.Neutral s x p := by
  intro t _
  cases p with
  | ret a => rfl
  | fail e => rfl
  | _ => exact h.elim

/-- Alone in the value that it has read, a function that ends so changes nothing. -/
theorem Part.alone_eq (h : C.Part x p s) (hp : C.Neutral s x p) (hv : ∀ w ∈ s.seen x.2, v = w) :
    C.alone x v = v := by
  have hends := h.ends { s with value := v } rfl rfl hv
  rw [hp { s with value := v } rfl] at hends
  exact hends.symm

/-- The store with what the client of `x` had done in `s`. -/
def back (s : Shared V Req) (x : Req × Nat) (t : Shared V Req) : Shared V Req :=
  { t with
    calls := Function.update t.calls x.2 (s.calls x.2)
    seen := Function.update t.seen x.2 (s.seen x.2) }

/-- A call that writes nothing is answered the same in a store that agrees on what it reads. -/
theorem reply_back {op : Op} (hC : C.Lawful) (hclient : C.client op = x.2)
    (hop : C.access op ≠ .write) (hcalls : t.calls x.2 = (C.reply op s).2.calls x.2)
    (hseen : t.seen x.2 = (C.reply op s).2.seen x.2)
    (hvalue : C.access op = .read → t.value = s.value) :
    C.reply op (back s x t) = ((C.reply op s).1, t) := by
  have hcalls : Function.update t.calls x.2 (s.calls x.2 + 1) = t.calls := by
    simpa [reply, hclient] using hcalls.symm
  cases haccess : C.access op with
  | write => exact absurd haccess hop
  | own =>
    have hseen : Function.update t.seen x.2 (s.seen x.2) = t.seen := by
      simpa [reply, haccess] using hseen.symm
    have hanswer := hC.own (s.calls x.2) op t.value s.value haccess
    simp [reply, back, hclient, haccess, hanswer, hcalls, hseen]
  | read =>
    have hvalue := hvalue haccess
    have hseen : Function.update t.seen x.2 (some s.value) = t.seen := by
      simpa [reply, haccess, hclient] using hseen.symm
    have hanswer := hC.read (s.calls x.2) op s.value haccess
    simp [reply, back, hclient, haccess, hvalue, hanswer, hcalls, hseen]
    rw [← hvalue]

/-- A call that writes nothing is answered. -/
theorem Part.answer {op : Op} {k : Except ε (Ans op) → Async (Shared V Req) Ans ε Unit}
    (hC : C.Lawful) (h : C.Part x (.await op k) s) (hop : C.access op ≠ .write) :
    C.Part x (k (C.reply op s).1) (C.reply op s).2 := by
  obtain ⟨⟨hclient, hown, hread, -⟩, hends⟩ := h
  have hgoes : ∀ t : Shared V Req, t.calls x.2 = (C.reply op s).2.calls x.2 →
      t.seen x.2 = (C.reply op s).2.seen x.2 → (C.access op = .read → t.value = s.value) →
      (∀ v ∈ s.seen x.2, t.value = v) →
      ((k (C.reply op s).1).complete C.reply t).2.value = C.alone x t.value := by
    intro t hcalls hseen hvalue hv
    have hwhole := hends (back s x t) (by simp [back]) (by simp [back]) hv
    rw [complete, reply_back hC hclient hop hcalls hseen hvalue] at hwhole
    exact hwhole
  cases haccess : C.access op with
  | write => exact absurd haccess hop
  | own =>
    have hsame : (C.reply op s).2.seen = s.seen := by simp [reply, haccess]
    refine ⟨?_, fun t hcalls hseen hv => hgoes t hcalls hseen (by simp [haccess]) (hsame ▸ hv)⟩
    rw [hsame]
    exact hown haccess _
  | read =>
    obtain ⟨hnone, hk⟩ := hread haccess
    have hnone : s.seen x.2 = none := by simpa using hnone
    have hsome : (C.reply op s).2.seen x.2 = some s.value := by simp [reply, haccess, hclient]
    constructor
    · rw [hsome]
      exact hk _
    · intro t hcalls hseen hv
      exact hgoes t hcalls hseen (fun _ => hv _ hsome) (by simp [hnone])

/-! ## Orders -/

variable {order : List (Req × Nat)}

theorem serial_append {order' : List (Req × Nat)} :
    C.serial (order ++ order') v = C.serial order' (C.serial order v) := List.foldl_append

variable (C) in
/-- The value is one between two functions of the order. -/
def Passes (order : List (Req × Nat)) (v w : V) : Prop :=
  ∃ done rest, order = done ++ rest ∧ C.serial done v = w

theorem passes_end : C.Passes order v (C.serial order v) := ⟨order, [], by simp, rfl⟩

theorem Passes.append (h : C.Passes order v w) (x : Req × Nat) : C.Passes (order ++ [x]) v w := by
  obtain ⟨done, rest, rfl, hw⟩ := h
  exact ⟨done, rest ++ [x], by simp, hw⟩

/-- A function that changes nothing in a value of the order takes its place there. -/
theorem Passes.insert (h : C.Passes order v w) (hx : C.alone x w = w) :
    ∃ order', order'.Perm (x :: order) ∧ C.serial order' v = C.serial order v ∧
      ∀ u, C.Passes order v u → C.Passes order' v u := by
  obtain ⟨done, rest, rfl, rfl⟩ := h
  have hdone : C.serial (done ++ [x]) v = C.serial done v := by
    rw [serial_append]
    exact hx
  refine ⟨done ++ x :: rest, List.perm_middle, ?_, ?_⟩
  · rw [List.append_cons, serial_append, hdone, serial_append]
  · rintro u ⟨done', rest', heq, rfl⟩
    rcases List.append_eq_append_iff.1 heq with ⟨between, rfl, rfl⟩ | ⟨between, rfl, rfl⟩
    · -- after the new place
      refine ⟨done ++ [x] ++ between, rest', by simp, ?_⟩
      rw [serial_append, hdone, serial_append]
    · exact ⟨done', between ++ x :: rest, by simp, rfl⟩

/-! ## Runs -/

/-- What goes on: the functions that are not over, each with what remains of it. -/
abbrev Going (V : Type) {Op : Type} (Ans : Op → Type) (ε Req : Type) :=
  List ((Req × Nat) × Async (Shared V Req) Ans ε Unit)

variable (C) in
/-- The functions that are over come in an order that gives the value, and each of the others has
read nothing or a value of that order. -/
structure Ordered (v : V) (order : List (Req × Nat)) (s : Shared V Req) (going : Going V Ans ε Req) :
    Prop where
  perm : (order ++ going.map (·.1)).Perm s.started.zipIdx
  value : s.value = C.serial order v
  part : ∀ g ∈ going, C.Part g.1 g.2 s
  passes : ∀ g ∈ going, ∀ w ∈ s.seen g.1.2, C.Passes order v w
  fresh : ∀ client, s.started.length ≤ client → s.calls client = 0 ∧ s.seen client = none

variable {going going' : Going V Ans ε Req}

theorem Ordered.congr (h : C.Ordered v order s going) (hgoing : going'.Perm going) :
    C.Ordered v order s going' where
  perm := ((hgoing.map _).append_left order).trans h.perm
  value := h.value
  part g hg := h.part g (hgoing.subset hg)
  passes g hg := h.passes g (hgoing.subset hg)
  fresh := h.fresh

/-- Each client runs one function. -/
theorem Ordered.nodup (h : C.Ordered v order s going) : (going.map (·.1.2)).Nodup := by
  have hstarted : ((order ++ going.map (·.1)).map (·.2)).Nodup := by
    rw [(h.perm.map _).nodup_iff, List.zipIdx_map_snd]
    exact List.nodup_range'
  rw [List.map_append, List.map_map] at hstarted
  exact (List.nodup_append.1 hstarted).2.1

theorem Ordered.client_lt (h : C.Ordered v order s ((x, p) :: going)) : x.2 < s.started.length := by
  have hmem : x ∈ s.started.zipIdx := h.perm.subset (by simp)
  simpa using List.snd_lt_of_mem_zipIdx hmem

theorem Ordered.ne (h : C.Ordered v order s ((x, p) :: going)) :
    ∀ g ∈ going, g.1.2 ≠ x.2 := by
  have hnodup := h.nodup
  rw [List.map_cons, List.nodup_cons] at hnodup
  intro g hg heq
  exact hnodup.1 (List.mem_map.2 ⟨g, hg, heq⟩)

/-- A function that has been requested. -/
theorem Ordered.start (hC : C.Lawful) (h : C.Ordered v order s going) (req : Req) :
    C.Ordered v order { s with started := s.started ++ [req] }
      (((req, s.started.length), C.function s.started.length req) :: going) := by
  have hlength : ∀ {x : Req × Nat}, x ∈ s.started.zipIdx → x.2 < s.started.length := by
    intro x hx
    simpa using List.snd_lt_of_mem_zipIdx hx
  have hfresh := h.fresh s.started.length (Nat.le_refl _)
  constructor
  · rw [List.zipIdx_append]
    refine List.Perm.trans ?_ (h.perm.append_right _)
    rw [List.append_assoc]
    refine List.Perm.append_left order ?_
    rw [List.zipIdx_cons, List.zipIdx_nil, List.map_cons, Nat.zero_add]
    exact (List.perm_append_singleton _ _).symm
  · exact h.value
  · intro g hg
    rcases List.mem_cons.1 hg with rfl | hg
    · constructor
      · simpa [hfresh.2] using hC.function s.started.length req
      · intro t hcalls _ _
        refine (hC.function s.started.length req).complete_congr rfl ?_
        simpa [hfresh.1] using hcalls
    · exact (h.part g hg).later rfl rfl
  · intro g hg
    rcases List.mem_cons.1 hg with rfl | hg
    · simp [hfresh.2]
    · exact h.passes g hg
  · intro client hle
    rw [List.length_append] at hle
    exact h.fresh client (Nat.le_of_succ_le hle)

/-- A function that is over, and has changed nothing. -/
theorem Ordered.finish (h : C.Ordered v order s ((x, p) :: going)) (hp : C.Neutral s x p) :
    ∃ order', C.Ordered v order' s going := by
  have hpart := h.part (x, p) List.mem_cons_self
  -- where it has read the value, or at the end
  have hplace : ∃ w, C.Passes order v w ∧ ∀ u ∈ s.seen x.2, w = u := by
    cases hseen : s.seen x.2 with
    | none => exact ⟨_, passes_end, by simp⟩
    | some w => exact ⟨w, h.passes (x, p) List.mem_cons_self w hseen, by simp⟩
  obtain ⟨w, hpasses, hw⟩ := hplace
  obtain ⟨order', hperm, hserial, hkeeps⟩ := hpasses.insert (hpart.alone_eq hp hw)
  refine ⟨order', ?_, ?_, ?_, ?_, h.fresh⟩
  · refine List.Perm.trans ?_ h.perm
    refine (hperm.append_right _).trans ?_
    simpa using List.perm_middle.symm
  · rw [hserial]
    exact h.value
  · intro g hg
    exact h.part g (List.mem_cons_of_mem _ hg)
  · intro g hg u hu
    exact hkeeps u (h.passes g (List.mem_cons_of_mem _ hg) u hu)

/-- What an answer changes about the other clients, and the requests. -/
theorem reply_other {op : Op} {client : Nat} (h : client ≠ C.client op) :
    (C.reply op s).2.calls client = s.calls client ∧ (C.reply op s).2.seen client = s.seen client := by
  constructor
  · simp [reply, h]
  · simp only [reply]
    split <;> simp [h]

/-- The other functions stay as they are. -/
theorem Ordered.others {op : Op} (h : C.Ordered v order s ((x, p) :: going))
    (hclient : C.client op = x.2) :
    (∀ g ∈ going, C.Part g.1 g.2 (C.reply op s).2 ∧
      (C.reply op s).2.seen g.1.2 = s.seen g.1.2) ∧
    ∀ client, s.started.length ≤ client →
      (C.reply op s).2.calls client = 0 ∧ (C.reply op s).2.seen client = none := by
  constructor
  · intro g hg
    have hne : g.1.2 ≠ C.client op := by
      rw [hclient]
      exact h.ne g hg
    obtain ⟨hcalls, hseen⟩ := reply_other (s := s) hne
    exact ⟨(h.part g (List.mem_cons_of_mem _ hg)).later hcalls hseen, hseen⟩
  · intro client hle
    have hlt := h.client_lt
    have hne : client ≠ C.client op := by omega
    obtain ⟨hcalls, hseen⟩ := reply_other (s := s) hne
    rw [hcalls, hseen]
    exact h.fresh client hle

/-- A call that writes nothing. -/
theorem Ordered.call {op : Op} {k : Except ε (Ans op) → Async (Shared V Req) Ans ε Unit}
    (hC : C.Lawful) (h : C.Ordered v order s ((x, .await op k) :: going))
    (hop : C.access op ≠ .write) :
    C.Ordered v order (C.reply op s).2 ((x, k (C.reply op s).1) :: going) := by
  have hpart := h.part _ List.mem_cons_self
  have hclient : C.client op = x.2 := hpart.transaction.1
  obtain ⟨hothers, hfresh⟩ := h.others hclient
  have hvalue : (C.reply op s).2.value = s.value := by
    cases haccess : C.access op with
    | write => exact absurd haccess hop
    | own => exact congrArg Prod.snd (hC.own _ op s.value s.value haccess)
    | read => exact hC.read _ op s.value haccess
  refine ⟨h.perm, hvalue.trans h.value, ?_, ?_, hfresh⟩
  · intro g hg
    rcases List.mem_cons.1 hg with rfl | hg
    · exact hpart.answer hC hop
    · exact (hothers g hg).1
  · intro g hg w hw
    rcases List.mem_cons.1 hg with rfl | hg
    · cases haccess : C.access op with
      | write => exact absurd haccess hop
      | own =>
        have hsame : (C.reply op s).2.seen = s.seen := by simp [reply, haccess]
        rw [hsame] at hw
        exact h.passes _ List.mem_cons_self w hw
      | read =>
        have hsome : (C.reply op s).2.seen x.2 = some s.value := by simp [reply, haccess, hclient]
        cases hsome.symm.trans hw
        rw [h.value]
        exact passes_end
    · rw [(hothers g hg).2] at hw
      exact h.passes g (List.mem_cons_of_mem _ hg) w hw

/-- A last call that writes. -/
theorem Ordered.write {op : Op} {k : Except ε (Ans op) → Async (Shared V Req) Ans ε Unit}
    (h : C.Ordered v order s ((x, .await op k) :: going)) (hop : C.access op = .write)
    (hvalid : ∀ w ∈ s.seen x.2, s.value = w ∨ ∀ u, (C.answer (s.calls x.2) op u).2 = u) :
    (∀ r, (k r).Ended) ∧ ∃ order', C.Ordered v order' (C.reply op s).2 going := by
  have hpart := h.part _ List.mem_cons_self
  obtain ⟨hclient, -, -, hended⟩ := hpart.transaction
  have hended := hended hop
  refine ⟨hended, ?_⟩
  obtain ⟨hothers, hfresh⟩ := h.others hclient
  have hcomplete : ∀ t : Shared V Req,
      ((Async.await op k).complete C.reply t).2.value = (C.reply op t).2.value := fun t =>
    neutral_of_ended (x := x) (hended (C.reply op t).1) _ rfl
  -- whatever the order is, the others go on
  have hgoing : ∀ {order'}, (order' ++ going.map (·.1)).Perm s.started.zipIdx →
      (C.reply op s).2.value = C.serial order' v →
      (∀ g ∈ going, ∀ w ∈ s.seen g.1.2, C.Passes order' v w) →
      C.Ordered v order' (C.reply op s).2 going := by
    intro order' hperm hvalue hpasses
    refine ⟨hperm, hvalue, fun g hg => (hothers g hg).1, fun g hg w hw => ?_, hfresh⟩
    rw [(hothers g hg).2] at hw
    exact hpasses g hg w hw
  by_cases heffect : ∀ u, (C.answer (s.calls x.2) op u).2 = u
  · -- it has failed
    have hneutral : C.Neutral s x (.await op k) := by
      intro t hcalls
      rw [hcomplete]
      simp [reply, hclient, hcalls, heffect]
    obtain ⟨order', h'⟩ := h.finish hneutral
    have hvalue : (C.reply op s).2.value = s.value := by simp [reply, hclient, heffect]
    exact ⟨order', hgoing h'.perm (hvalue.trans h'.value) h'.passes⟩
  · have hseen : ∀ w ∈ s.seen x.2, s.value = w := by
      intro w hw
      exact (hvalid w hw).resolve_right heffect
    have halone : (C.reply op s).2.value = C.alone x s.value := by
      rw [← hcomplete]
      exact hpart.ends s rfl rfl hseen
    refine ⟨order ++ [x], hgoing ?_ ?_ ?_⟩
    · simpa using h.perm
    · rw [serial_append, ← h.value]
      exact halone
    · intro g hg w hw
      exact (h.passes g (List.mem_cons_of_mem _ hg) w hw).append x

/-! ## Pools -/

/-- What remains of a task. -/
def rest (t : Task (Shared V Req) Ans ε (Req × Nat)) : Async (Shared V Req) Ans ε Unit :=
  match t.reply with
  | none => .await t.op t.next
  | some r => t.next r

variable (C) in
/-- A task that has not made its write. -/
def goingTask (t : Task (Shared V Req) Ans ε (Req × Nat)) :
    Option ((Req × Nat) × Async (Shared V Req) Ans ε Unit) :=
  if t.reply.isSome ∧ C.access t.op = .write then none else some (t.tag, rest t)

variable (C) in
/-- The tasks of the pool that go on are in an order, the others are at their end. -/
structure PoolOrdered (v : V) (c : Pool (Shared V Req) Ans ε (Req × Nat)) : Prop where
  order : ∃ order, C.Ordered v order c.store (c.tasks.filterMap C.goingTask)
  ended : ∀ t ∈ c.tasks, C.goingTask t = none → (rest t).Ended

/-- A segment of a function, up to its next call or its end. -/
theorem Ordered.segment (h : C.Ordered v order s ((x, p) :: going)) :
    (Program.runSegment x p s).1 = s ∧ ∃ order', C.Ordered v order' s
      ((Program.runSegment x p s).2.toList.filterMap C.goingTask ++ going) ∧
      ∀ t ∈ (Program.runSegment x p s).2, C.goingTask t ≠ none := by
  have hpart := h.part _ List.mem_cons_self
  cases p with
  | ret a =>
    obtain ⟨order', h'⟩ := h.finish (neutral_of_ended trivial)
    exact ⟨rfl, order', h', by simp [Program.runSegment, Async.segment]⟩
  | fail e =>
    obtain ⟨order', h'⟩ := h.finish (neutral_of_ended trivial)
    exact ⟨rfl, order', h', by simp [Program.runSegment, Async.segment]⟩
  | read k => exact hpart.transaction.elim
  | write t k => exact hpart.transaction.elim
  | await op k =>
    refine ⟨rfl, order, h, ?_⟩
    simp [Program.runSegment, Async.segment, goingTask]

variable {c c' : Pool (Shared V Req) Ans ε (Req × Nat)}

theorem PoolOrdered.event (hC : C.Lawful) (h : C.PoolOrdered v c) {req : Req}
    (hstep : C.program.step c (.event req) = some c') : C.PoolOrdered v c' := by
  obtain ⟨order, horder⟩ := h.order
  have hall : c.tasks.filter (fun t => !C.program.kills req t.tag) = c.tasks :=
    List.filter_eq_self.2 fun _ _ => rfl
  obtain ⟨hstore, order', horder', hnew⟩ := (horder.start hC req).segment
  simp only [Program.step, hall] at hstep
  cases hstep
  constructor
  · refine ⟨order', ?_⟩
    change C.Ordered v order' (Program.runSegment _ _ _).1 _
    rw [hstore]
    refine horder'.congr ?_
    rw [List.filterMap_append]
    exact List.perm_append_comm
  · intro t ht hover
    rcases List.mem_append.1 ht with ht | ht
    · exact h.ended t ht hover
    · exact absurd hover (hnew t (by simpa using ht))

theorem PoolOrdered.answer (hC : C.Lawful) (h : C.PoolOrdered v c) {i : Nat}
    (hvalid : Program.Allows C.Valid c (.answer i ()))
    (hstep : C.program.step c (.answer i ()) = some c') : C.PoolOrdered v c' := by
  obtain ⟨t, r, ts, hget, hnone, hbefore, hans, hafter⟩ := Program.step_answer hstep
  obtain ⟨order, horder⟩ := h.order
  have hV : C.Valid c.store (.answer t.op ()) := hvalid _ (by simp [Program.action, hget])
  obtain ⟨tag, op, next, reply⟩ := t
  obtain rfl : reply = none := hnone
  have hreply : C.reply op c.store = (r, c'.store) := Option.some.inj hans
  have horder := horder.congr (hbefore.filterMap C.goingTask).symm
  have hgoing : C.goingTask ⟨tag, op, next, none⟩ = some (tag, .await op next) := rfl
  rw [List.filterMap_cons_some hgoing] at horder
  have hended : ∀ t ∈ ts, C.goingTask t = none → (rest t).Ended := by
    intro t ht
    exact h.ended t (hbefore.symm.subset (List.mem_cons_of_mem _ ht))
  by_cases hop : C.access op = .write
  · have hclient : C.client op = tag.2 := (horder.part _ List.mem_cons_self).transaction.1
    obtain ⟨hover, order', horder'⟩ := horder.write hop (by rw [← hclient]; exact hV hop)
    have hdone : C.goingTask ⟨tag, op, next, some r⟩ = none := by simp [goingTask, hop]
    rw [hreply] at horder'
    constructor
    · refine ⟨order', horder'.congr ?_⟩
      have hperm := hafter.filterMap C.goingTask
      rw [List.filterMap_cons_none hdone] at hperm
      exact hperm
    · intro t ht
      rcases List.mem_cons.1 (hafter.subset ht) with rfl | ht
      · exact fun _ => hover r
      · exact hended t ht
  · have horder' := horder.call hC hop
    have hgoes : C.goingTask ⟨tag, op, next, some r⟩ = some (tag, next r) := by
      simp [goingTask, hop, rest]
    rw [hreply] at horder'
    constructor
    · refine ⟨order, horder'.congr ?_⟩
      have hperm := hafter.filterMap C.goingTask
      rw [List.filterMap_cons_some hgoes] at hperm
      exact hperm
    · intro t ht
      rcases List.mem_cons.1 (hafter.subset ht) with rfl | ht
      · intro hover
        rw [hgoes] at hover
        cases hover
      · exact hended t ht

theorem PoolOrdered.resume (h : C.PoolOrdered v c) {i : Nat}
    (hstep : C.program.step c (.resume i) = some c') : C.PoolOrdered v c' := by
  obtain ⟨t, r, ts, hsome, hbefore, hstore, hafter⟩ := Program.step_resume hstep
  obtain ⟨order, horder⟩ := h.order
  have horder := horder.congr (hbefore.filterMap C.goingTask).symm
  have hrest : rest t = t.next r := by simp [rest, hsome]
  have hended : ∀ t ∈ ts, C.goingTask t = none → (rest t).Ended := by
    intro t ht
    exact h.ended t (hbefore.symm.subset (List.mem_cons_of_mem _ ht))
  have hperm := hafter.filterMap C.goingTask
  rw [List.filterMap_append] at hperm
  cases hgoing : C.goingTask t with
  | none =>
    -- it has made its write, and is at its end
    have hover := h.ended t (hbefore.symm.subset List.mem_cons_self) hgoing
    rw [List.filterMap_cons_none hgoing] at horder
    have hdone : Program.runSegment t.tag (t.next r) c.store = (c.store, none) := by
      rw [hrest] at hover
      cases hnext : t.next r with
      | ret a => rfl
      | fail e => rfl
      | _ =>
        rw [hnext] at hover
        exact hover.elim
    rw [hdone] at hstore hafter hperm
    constructor
    · rw [hstore]
      exact ⟨order, horder.congr hperm⟩
    · intro t ht
      exact hended t (by simpa using hafter.subset ht)
  | some g =>
    have hg : g = (t.tag, t.next r) := by
      unfold goingTask at hgoing
      split at hgoing
      · cases hgoing
      · rw [hrest] at hgoing
        exact (Option.some.inj hgoing).symm
    rw [List.filterMap_cons_some hgoing, hg] at horder
    obtain ⟨hsame, order', horder', hnew⟩ := horder.segment
    constructor
    · rw [hstore, hsame]
      exact ⟨order', horder'.congr hperm⟩
    · intro t' ht' hover
      rcases List.mem_append.1 (hafter.subset ht') with ht' | ht'
      · exact absurd hover (hnew t' (by simpa using ht'))
      · exact hended t' ht' hover

/-- **Serializability.** When all functions have ended, the value is one that they give one after
another, provided that every write was valid. -/
theorem serializable (hC : C.Lawful) {v : V} {ls : List (Label Req Unit)}
    {c : Pool (Shared V Req) Ans ε (Req × Nat)}
    (hall : C.program.system.Meets (Program.Allows C.Valid) ⟨{ value := v }, []⟩ ls)
    (hrun : C.program.system.run ⟨{ value := v }, []⟩ ls = some c) (hend : c.tasks = []) :
    ∃ order, order.Perm c.store.started.zipIdx ∧ c.store.value = C.serial order v := by
  have hstart : C.PoolOrdered v ⟨{ value := v }, []⟩ := by
    refine ⟨⟨[], ?_⟩, fun t ht => absurd ht List.not_mem_nil⟩
    exact ⟨.refl _, rfl, fun _ hg => absurd hg List.not_mem_nil,
      fun _ hg => absurd hg List.not_mem_nil, fun _ _ => ⟨rfl, rfl⟩⟩
  have hordered : C.PoolOrdered v c := by
    refine System.run_invariant (I := C.PoolOrdered v) ?_ hstart hall hrun
    intro c l c' hc hl hstep
    cases l with
    | event req => exact hc.event hC hstep
    | answer i o => exact hc.answer hC hl hstep
    | resume i => exact hc.resume hstep
  obtain ⟨order, horder⟩ := hordered.order
  refine ⟨order, ?_, horder.value⟩
  simpa [hend] using horder.perm

end Clients

end CotServer
