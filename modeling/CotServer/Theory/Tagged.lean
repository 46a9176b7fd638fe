import CotServer.Theory.Async

/-!
# Operations that name their caller

`p.tagged tag` is `p` with the tag handed out together with every operation. A condition on the
actions of a run can then speak about the function that an action belongs to.
-/

namespace CotServer

namespace Async

variable {σ Op Tag : Type} {Ans : Op → Type} {ε α β : Type}

/-- `p`, with `tag` handed out at every await. -/
def tagged (tag : Tag) : Async σ Ans ε α → Async σ (fun x : Tag × Op => Ans x.2) ε α
  | ret a => ret a
  | fail e => fail e
  | read k => read fun s => (k s).tagged tag
  | write s k => write s (k.tagged tag)
  | await op k => await (tag, op) fun r => (k r).tagged tag

variable (tag : Tag)

@[simp] theorem tagged_pure (a : α) :
    (pure a : Async σ Ans ε α).tagged tag = pure a := rfl

@[simp] theorem tagged_throw (e : ε) :
    (throw e : Async σ Ans ε α).tagged tag = throw e := rfl

@[simp] theorem tagged_store : (store : Async σ Ans ε σ).tagged tag = store := rfl

@[simp] theorem tagged_update (f : σ → σ) :
    (update f : Async σ Ans ε Unit).tagged tag = update f := rfl

@[simp] theorem tagged_settle (x : Except ε α) :
    (settle x : Async σ Ans ε α).tagged tag = settle x := by
  cases x <;> rfl

@[simp] theorem tagged_throwIf (c : Prop) [Decidable c] (e : ε) :
    (throwIf c e : Async σ Ans ε Unit).tagged tag = throwIf c e := by
  unfold throwIf
  split <;> rfl

@[simp] theorem tagged_call (op : Op) :
    (call op : Async σ Ans ε (Ans op)).tagged tag =
      (call (tag, op) : Async σ (fun x : Tag × Op => Ans x.2) ε (Ans op)) := by
  simp only [call, tagged, tagged_settle]

@[simp] theorem tagged_bind (p : Async σ Ans ε α) (f : α → Async σ Ans ε β) :
    (p >>= f).tagged tag = p.tagged tag >>= fun a => (f a).tagged tag := by
  simp only [bind_def]
  induction p with
  | ret a => rfl
  | fail e => rfl
  | read k ih => simp only [Async.bind, tagged, ih]
  | write s k ih => simp only [Async.bind, tagged, ih]
  | await op k ih => simp only [Async.bind, tagged, ih]

@[simp] theorem tagged_tryCatch (p : Async σ Ans ε α) (h : ε → Async σ Ans ε α) :
    (tryCatch p h).tagged tag = tryCatch (p.tagged tag) fun e => (h e).tagged tag := by
  simp only [tryCatch_def]
  induction p with
  | ret a => rfl
  | fail e => rfl
  | read k ih => simp only [catchError, tagged, ih]
  | write s k ih => simp only [catchError, tagged, ih]
  | await op k ih => simp only [catchError, tagged, ih]

end Async

end CotServer
