import CotServer.Theory.RelyGuarantee
import CotServer.Theory.Tagged

/-!
# Requests and what they have returned

`Program.requests` runs an async function for each request, any number of them interleaved, and
records what each has returned. `requests_sound` carries a rely-guarantee proof about the function
over to the record: what was established when a request returned holds of all recorded requests.
-/

namespace CotServer

open Async

/-- A store, and a record of what functions have returned. -/
structure Recorded (σ R : Type) where
  store : σ
  record : List R := []

namespace Async

variable {σ Op R : Type} {Ans : Op → Type} {ε α : Type}

/-- `p`, on a store with a record. -/
def recorded : Async σ Ans ε α → Async (Recorded σ R) Ans ε α
  | ret a => ret a
  | fail e => fail e
  | read k => read fun s => (k s.store).recorded
  | write t k => read fun s => write { s with store := t } k.recorded
  | await op k => await op fun r => (k r).recorded

end Async

namespace Program

variable {σ Op Req R : Type} {Ans : Op → Type} {ε Ω : Type}

/-- Requests for `f`; their operations name the request. -/
def calls (answer : (op : Op) → Ω → σ → Option (Except ε (Ans op) × σ))
    (f : Req → Async σ Ans ε R) : Program σ (fun x : Req × Op => Ans x.2) ε Req Ω Req where
  event req s := some (s, some (req, do let _ ← (f req).tagged req))
  kills _ _ := false
  answer x := answer x.2

/-- Requests for `f`, and the record of those that have returned. -/
def requests (answer : (op : Op) → Ω → σ → Option (Except ε (Ans op) × σ))
    (f : Req → Async σ Ans ε R) :
    Program (Recorded σ (Req × R)) (fun x : Req × Op => Ans x.2) ε Req Ω Req where
  event req s := some (s, some (req, do
    let r ← ((f req).tagged req).recorded
    update fun s => { s with record := s.record ++ [(req, r)] }))
  kills _ _ := false
  answer x o s := (answer x.2 o s.store).map fun (r, t) => (r, { s with store := t })

end Program

namespace Logic

variable {σ Op Req R : Type} {Ans : Op → Type} {ε Ω α : Type}
variable {answer : (op : Op) → Ω → σ → Option (Except ε (Ans op) × σ)}
variable {f : Req → Async σ Ans ε R}

/-- The logic of requests whose recorded ones have established `Done`. -/
def recorded (L : Logic (Program.calls answer f)) (Done : Req → R → σ → Prop) :
    Logic (Program.requests answer f) where
  Inv s := L.Inv s.store ∧ ∀ x ∈ s.record, Done x.1 x.2 s.store
  Rel s s' := L.Rel s.store s'.store
  Allowed s a := L.Allowed s.store a
  refl s := L.refl s.store
  trans := L.trans

variable {L : Logic (Program.calls answer f)} {Done : Req → R → σ → Prop}

/-- A segment that does not touch the record keeps what is recorded. -/
theorem Seg.recorded (hstable : ∀ req r s t, L.Rel s t → Done req r s → Done req r t)
    {s₀ s : Recorded σ (Req × R)} (h₀ : ∀ x ∈ s₀.record, Done x.1 x.2 s₀.store)
    (hrecord : s.record = s₀.record) (h : L.Seg s₀.store s.store) :
    (L.recorded Done).Seg s₀ s := by
  refine ⟨⟨h.1, ?_⟩, h.2⟩
  intro x hx
  rw [hrecord] at hx
  exact hstable _ _ _ _ h.2 (h₀ x hx)

/-- A function behaves on the recorded store as it does on the store. -/
theorem wp_recorded (hstable : ∀ req r s t, L.Rel s t → Done req r s → Done req r t)
    {p : Async σ (fun x : Req × Op => Ans x.2) ε α} {Q : Except ε α → σ → σ → Prop}
    {s₀ s : Recorded σ (Req × R)} (h₀ : ∀ x ∈ s₀.record, Done x.1 x.2 s₀.store)
    (hrecord : s.record = s₀.record) (h : L.Wp p Q s₀.store s.store) :
    (L.recorded Done).Wp p.recorded (fun r u₀ u => Q r u₀.store u.store ∧
      (∀ x ∈ u₀.record, Done x.1 x.2 u₀.store) ∧ u.record = u₀.record) s₀ s := by
  induction p generalizing s₀ s with
  | ret a => exact ⟨h, h₀, hrecord⟩
  | fail e => exact ⟨h, h₀, hrecord⟩
  | read k ih => exact ih s.store h₀ hrecord h
  | write t k ih => exact ih (s := { s with store := t }) h₀ hrecord h
  | await op k ih =>
    obtain ⟨hseg, hawaits⟩ := h
    refine ⟨hseg.recorded hstable h₀ hrecord, ?_⟩
    intro s₁ hR hI o r s₂ hans hall
    obtain ⟨⟨r', t⟩, hinner, heq⟩ := Option.map_eq_some_iff.1 hans
    cases heq
    obtain ⟨hseg', hnext⟩ := hawaits s₁.store hR hI.1 o r t hinner hall
    refine ⟨Seg.recorded (s := { s₁ with store := t }) hstable hI.2 rfl hseg', ?_⟩
    intro s₃ hR' hI' hall'
    exact ih r hI'.2 rfl (hnext s₃.store hR' hI'.1 hall')

/-- When every request keeps to the logic and establishes `Done` before it returns, then at every
moment of an allowed run all recorded requests have it. -/
theorem requests_sound (hstable : ∀ req r s t, L.Rel s t → Done req r s → Done req r t)
    (hf : ∀ req s, L.Inv s → L.Triple ((f req).tagged req) s (Done req)) {s : σ} (hs : L.Inv s)
    {c : Pool (Recorded σ (Req × R)) (fun x : Req × Op => Ans x.2) ε Req}
    {ls : List (Label Req Ω)}
    (hrun : (Program.requests answer f).system.run ⟨⟨s, []⟩, []⟩ ls = some c)
    (hall : (Program.requests answer f).system.Meets
      (Program.Allows fun s a => L.Allowed s.store a) ⟨⟨s, []⟩, []⟩ ls) :
    L.Inv c.store.store ∧ ∀ x ∈ c.store.record, Done x.1 x.2 c.store.store := by
  have hidle : (L.recorded Done).PoolOk
      (⟨⟨s, []⟩, []⟩ : Pool (Recorded σ (Req × R)) (fun x : Req × Op => Ans x.2) ε Req) :=
    .idle ⟨hs, fun _ h => absurd h List.not_mem_nil⟩
  have hpool : (L.recorded Done).PoolOk c := by
    refine (L.recorded Done).sound ?_ hidle hall hrun
    intro req t hI _ u p hstart
    cases hstart
    have hcall := wp_recorded hstable hI.2 rfl (hf req t.store hI.1)
    refine wp_bind.2 (hcall.mono ?_)
    intro r u₀ u hu
    obtain ⟨⟨hseg, hdone⟩, hrecord, hsame⟩ := hu
    have hseg' := hseg.recorded hstable hrecord hsame
    cases r with
    | error e => exact hseg'
    | ok a =>
      -- the record gets the request that has just returned
      refine ⟨⟨hseg'.1.1, ?_⟩, hseg'.2⟩
      intro x hx
      rcases List.mem_append.1 hx with hx | hx
      · exact hseg'.1.2 x hx
      · obtain rfl := List.mem_singleton.1 hx
        exact hdone a rfl
  exact hpool.inv

end Logic

end CotServer
