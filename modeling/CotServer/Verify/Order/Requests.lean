import CotServer.Verify.Order.Follows
import CotServer.Verify.Order.Steps

/-!
# Requests for logic objects

A retry sends the order worker a request for a logic object. When the request is answered with
`true` there is one in the map, made for the request or found there; `Requests` says that it stays
until it is taken out, which is counted.
-/

namespace CotServer

open Async Moves

variable {E S : Type} [OrderEntity E S]

namespace OrderStore

omit [OrderEntity E S]

variable {s t u : OrderStore E} {m n : Nat}

/-- An object is in the map, or one has been taken out of it since `n` had been. -/
def LiveSince (n : Nat) (s : OrderStore E) : Prop :=
  n ≤ s.removed ∧ (s.processing.isSome = true ∨ n < s.removed)

/-- An object that is in the map stays there, or is counted when it is taken out. -/
structure Counts (s t : OrderStore E) : Prop where
  removed : s.removed ≤ t.removed
  processing : s.processing.isSome = true → t.processing.isSome = true ∨ s.removed < t.removed

theorem Counts.of_eq (hremoved : t.removed = s.removed) (hprocessing : t.processing = s.processing) :
    s.Counts t :=
  ⟨hremoved.ge, fun hlive => .inl (hprocessing ▸ hlive)⟩

theorem Counts.refl (s : OrderStore E) : s.Counts s := .of_eq rfl rfl

theorem Counts.trans (h : s.Counts t) (h' : t.Counts u) : s.Counts u where
  removed := Nat.le_trans h.removed h'.removed
  processing hlive := by
    rcases h.processing hlive with hlive | hlt
    · exact (h'.processing hlive).imp_right (Nat.lt_of_le_of_lt h.removed)
    · exact .inr (Nat.lt_of_lt_of_le hlt h'.removed)

theorem Counts.unmap (s : OrderStore E) : s.Counts s.unmap := by
  constructor
  · unfold OrderStore.unmap
    dsimp only
    split <;> omega
  · intro hlive
    right
    simp [OrderStore.unmap, hlive]

theorem Counts.newObj {entity : E} (s : OrderStore E) : s.Counts (OrderMgr.newObj entity s) :=
  ⟨Nat.le_refl _, fun _ => .inl rfl⟩

theorem LiveSince.later (h : s.LiveSince n) (hst : s.Counts t) : t.LiveSince n := by
  refine ⟨Nat.le_trans h.1 hst.removed, ?_⟩
  rcases h.2 with hlive | hlt
  · exact (hst.processing hlive).imp_right (Nat.lt_of_le_of_lt h.1)
  · exact .inr (Nat.lt_of_lt_of_le hlt hst.removed)

theorem LiveSince.mono (h : s.LiveSince n) (hmn : m ≤ n) : s.LiveSince m :=
  ⟨Nat.le_trans hmn h.1, h.2.imp_right (Nat.lt_of_le_of_lt hmn)⟩

end OrderStore

namespace OrderKind

/-- A request that the function serves was sent before, and the object that the function has made
for one has been in the map since. -/
structure RequestPos (s : OrderStore E) (x : OrderPos E) : Prop where
  serving : ∀ request, x.act = .serving request → request.removed ≤ s.removed
  loaded : ∀ request entity, x.act = .loaded request entity → request.removed ≤ s.removed
  made : ∀ request, x.made = some request → s.LiveSince request.removed

variable (K : OrderKind E S) (env : OrderEnv) (since : OrderStore E) in
/-- There has been an object in the map since an answered request was sent. -/
structure Requests (s : OrderStore E) (R : Multiset (OrderSpot E S)) : Prop where
  counts : since.Counts s
  requests : ∀ request ∈ s.ipcRequests, request.removed ≤ s.removed
  replies : ∀ request ∈ s.ipcReplies, s.LiveSince request.removed
  spots : ∀ spot ∈ R, RequestPos s ((orderMoves K env).pos spot)

variable {K : OrderKind E S} {env : OrderEnv} {since s t : OrderStore E}
  {R R' : Multiset (OrderSpot E S)} {spot spot' : OrderSpot E S} {x y : OrderPos E}

theorem RequestPos.later (h : RequestPos s x) (hst : s.Counts t) : RequestPos t x where
  serving request hx := Nat.le_trans (h.serving request hx) hst.removed
  loaded request entity hx := Nat.le_trans (h.loaded request entity hx) hst.removed
  made request hx := (h.made request hx).later hst

/-- A request that can be answered. -/
theorem RequestPos.served (h : RequestPos s x) {request : IpcRequest} (hx : x.Served s request) :
    s.LiveSince request.removed := by
  rcases hx with hmade | ⟨hserving | ⟨entity, hloaded⟩, hlive⟩
  · exact h.made request hmade
  · exact ⟨h.serving request hserving, .inl hlive⟩
  · exact ⟨h.loaded request entity hloaded, .inl hlive⟩

omit [OrderEntity E S] in
theorem RequestPos.hold {txId : JsString} (h : RequestPos s x) : RequestPos s (x.hold txId) := by
  by_cases hsending : ∃ ref, x.act = .sending ref
  · obtain ⟨ref, href⟩ := hsending
    rw [hold_sending href]
    exact ⟨nofun, nofun, h.made⟩
  · rw [hold_other fun ref href => hsending ⟨ref, href⟩]
    exact h

omit [OrderEntity E S] in
theorem RequestPos.look {side : ChainSide} {txId : JsString} (h : RequestPos s x) :
    RequestPos s (x.look side txId) := by
  unfold OrderPos.look
  split
  · split
    · exact ⟨nofun, nofun, h.made⟩
    · exact h
  · exact h

omit [OrderEntity E S] in
theorem RequestPos.receive {op : OrderOp E S} {r : Except Err op.Ans} (h : RequestPos s x) :
    RequestPos s (x.receive op r) := by
  unfold OrderPos.receive
  split
  case h_1 => exact ⟨nofun, nofun, h.made⟩
  case h_2 =>
    split
    · next request hserving =>
      refine ⟨nofun, ?_, h.made⟩
      intro request' entity' hx
      cases hx
      exact h.serving request hserving
    · exact h
  case h_3 | h_4 | h_5 => exact h.hold
  case h_6 => exact h.look
  all_goals exact h

omit [OrderEntity E S] in
theorem RequestPos.aside (h : RequestPos s x) : RequestPos s x.aside := by
  unfold OrderPos.aside
  split
  · exact h
  · exact ⟨nofun, nofun, h.made⟩

theorem Requests.le (h : K.Requests env since s R) (hR : R' ≤ R) : K.Requests env since s R' :=
  ⟨h.counts, h.requests, h.replies, fun spot hspot => h.spots spot (Multiset.mem_of_le hR hspot)⟩

theorem Requests.rebase (h : K.Requests env since s R) : K.Requests env s s R :=
  ⟨.refl s, h.requests, h.replies, h.spots⟩

/-- One function goes on. -/
theorem Requests.step (h : K.Requests env since s (spot ::ₘ R)) (hst : s.Counts t)
    (hrequests : ∀ request ∈ t.ipcRequests,
      request ∈ s.ipcRequests ∨ request.removed ≤ t.removed)
    (hreplies : ∀ request ∈ t.ipcReplies,
      request ∈ s.ipcReplies ∨ t.LiveSince request.removed)
    (hspot : RequestPos t ((orderMoves K env).pos spot')) :
    K.Requests env since t (spot' ::ₘ R) where
  counts := h.counts.trans hst
  requests request hmem := by
    rcases hrequests request hmem with hold | hnew
    · exact Nat.le_trans (h.requests request hold) hst.removed
    · exact hnew
  replies request hmem := by
    rcases hreplies request hmem with hold | hnew
    · exact (h.replies request hold).later hst
    · exact hnew
  spots spot'' hmem := by
    rcases Multiset.mem_cons.1 hmem with rfl | hmem
    · exact hspot
    · exact (h.spots spot'' (Multiset.mem_cons_of_mem hmem)).later hst

/-- One function goes on from its position, and no request comes or goes. -/
theorem Requests.stay (h : K.Requests env since s (spot ::ₘ R)) (hst : s.Counts t)
    (hrequests : t.ipcRequests ⊆ s.ipcRequests) (hreplies : t.ipcReplies = s.ipcReplies)
    (hspot : RequestPos s ((orderMoves K env).pos spot) →
      RequestPos s ((orderMoves K env).pos spot')) : K.Requests env since t (spot' ::ₘ R) := by
  apply h.step hst
  · exact fun request hmem => .inl (hrequests hmem)
  · exact fun request hmem => .inl (hreplies ▸ hmem)
  · exact (hspot (h.spots spot (Multiset.mem_cons_self _ _))).later hst

/-- A function that is past its part in a request. -/
theorem RequestPos.plain {act : OrderAct E} (h : RequestPos s x)
    (hserving : ∀ request, act ≠ .serving request)
    (hloaded : ∀ request entity, act ≠ .loaded request entity) :
    RequestPos s { x with act := act } where
  serving request hx := absurd hx (hserving request)
  loaded request entity hx := absurd hx (hloaded request entity)
  made := h.made

theorem Requests.move (h : K.Requests env since s (.runs x ::ₘ R))
    (hmove : OrderMove K env x s y t) : K.Requests env since t (.runs y ::ₘ R) := by
  have hplain : ∀ {act : OrderAct E}, (∀ request, act ≠ .serving request) →
      (∀ request entity, act ≠ .loaded request entity) →
      RequestPos s x → RequestPos s { x with act := act } :=
    fun hserving hloaded hpos => hpos.plain hserving hloaded
  have hpos : RequestPos s x := h.spots _ (Multiset.mem_cons_self _ _)
  have hsame : ∀ {t : OrderStore E}, t.removed = s.removed → t.processing = s.processing →
      s.Counts t := fun hremoved hprocessing => .of_eq hremoved hprocessing
  cases hmove with
  | aux hst =>
    exact h.stay (hsame hst.removed hst.processing)
      (by rw [hst.ipcRequests]; exact List.Subset.refl _) hst.ipcReplies id
  | close =>
    split
    · exact h.stay (.unmap s) (List.Subset.refl _) rfl id
    · exact h.stay (.refl s) (List.Subset.refl _) rfl id
  | send =>
    refine h.step (hsame rfl rfl) ?_ (fun _ => .inl) (hpos.later (hsame rfl rfl))
    intro request hmem
    rcases List.mem_cons.1 hmem with rfl | hmem
    · exact .inr (Nat.le_refl _)
    · exact .inl hmem
  | newObj hx hact =>
    have hle := hpos.loaded _ _ hx
    refine h.step (.newObj s) (fun _ => .inl) (fun _ => .inl) ?_
    obtain ⟨-, rfl⟩ | ⟨-, rfl⟩ := hact
    all_goals
      refine ⟨fun _ h => (by cases h), fun _ _ h => (by cases h), fun request hmade => ?_⟩
      cases hmade
      exact ⟨hle, .inl rfl⟩
  | pass _ _ _ hact =>
    obtain ⟨-, rfl⟩ | ⟨-, rfl⟩ := hact
    all_goals
      exact h.stay (hsame rfl rfl) (List.Subset.refl _) rfl (hplain (by simp) (by simp))
  | reply hx =>
    refine h.step (hsame rfl rfl) (fun _ => .inl) ?_ (hpos.later (hsame rfl rfl))
    intro request hmem
    rcases List.mem_cons.1 hmem with rfl | hmem
    · exact .inr (hpos.served hx)
    · exact .inl hmem
  | touch => exact h.stay (hsame rfl rfl) (List.Subset.refl _) rfl id
  | _ => exact h.stay (hsame rfl rfl) (List.Subset.refl _) rfl (hplain (by simp) (by simp))

theorem Requests.wait {op : OrderOp E S} (h : K.Requests env since s (.runs x ::ₘ R))
    (hwait : OrderWait K env x s op y) : K.Requests env since s (.waits y op ::ₘ R) := by
  have hsame : (RequestPos s x → RequestPos s y) → K.Requests env since s (.waits y op ::ₘ R) :=
    fun hpos => h.stay (.refl _) (List.Subset.refl _) rfl hpos
  cases hwait with
  | prepare => exact hsame fun hpos => hpos.plain nofun nofun
  | create => exact hsame fun hpos => hpos.plain nofun nofun
  | saveState => exact hsame fun hpos => ⟨hpos.aside.serving, hpos.aside.loaded, hpos.aside.made⟩
  | silent | saveLive | retryIncoming | retryOutgoing => exact hsame RequestPos.aside
  | _ => exact hsame id

theorem Requests.answer {op : OrderOp E S} {r : Except Err op.Ans}
    (h : K.Requests env since s (.waits x op ::ₘ R)) (hans : OrderAnswer env s op r t) :
    K.Requests env since t (.has x op r ::ₘ R) := by
  have hreceive : RequestPos s ((orderMoves K env).pos (.waits x op)) →
      RequestPos s ((orderMoves K env).pos (.has x op r)) := fun hpos => hpos.receive
  cases hans with
  | aux hst =>
    exact h.stay (.of_eq hst.removed hst.processing)
      (by rw [hst.ipcRequests]; exact List.Subset.refl _) hst.ipcReplies hreceive
  | _ => exact h.stay (.of_eq rfl rfl) (List.Subset.refl _) rfl hreceive

/-- No function goes on. -/
theorem Requests.others (h : K.Requests env since s R) (hst : s.Counts t)
    (hrequests : t.ipcRequests ⊆ s.ipcRequests) (hreplies : t.ipcReplies = s.ipcReplies) :
    K.Requests env since t R where
  counts := h.counts.trans hst
  requests request hmem := Nat.le_trans (h.requests request (hrequests hmem)) hst.removed
  replies request hmem := (h.replies request (hreplies ▸ hmem)).later hst
  spots spot hspot := (h.spots spot hspot).later hst

theorem Requests.start (h : K.Requests env since s R) (hx : RequestPos s x) :
    K.Requests env since s (.runs x ::ₘ R) := by
  refine ⟨h.counts, h.requests, h.replies, fun spot hmem => ?_⟩
  rcases Multiset.mem_cons.1 hmem with rfl | hmem
  · exact hx
  · exact h.spots spot hmem

theorem Requests.event {mgr : OrderMgr E S} {e : OrderEvt} (h : K.Requests env since s R)
    (hevent : OrderEvent mgr s e t) :
    K.Requests env since t R ∧ K.Requests env since t (.runs e.start ::ₘ R) := by
  have hplain : ∀ {t : OrderStore E} {act : OrderAct E}, K.Requests env since t R →
      (∀ request, act ≠ .serving request) → (∀ request entity, act ≠ .loaded request entity) →
      K.Requests env since t (.runs { act := act } ::ₘ R) := by
    intro t act ht hserving hloaded
    apply ht.start
    exact ⟨fun _ hx => absurd hx (hserving _), fun _ _ hx => absurd hx (hloaded _ _),
      fun _ hx => (nomatch hx)⟩
  have hnew : ∀ {entity : E}, K.Requests env since (OrderMgr.newObj entity s) R := by
    intro entity
    exact h.others (.newObj s) (List.Subset.refl _) rfl
  cases hevent with
  | aux hst he =>
    rw [he]
    have ht : K.Requests env since t R := h.others (.of_eq hst.removed hst.processing)
      (by rw [hst.ipcRequests]; exact List.Subset.refl _) hst.ipcReplies
    exact ⟨ht, hplain ht nofun nofun⟩
  | deliver hst =>
    have ht : K.Requests env since t R := h.others (.of_eq hst.removed hst.processing)
      (by rw [hst.ipcRequests]; exact List.Subset.refl _) hst.ipcReplies
    exact ⟨ht, hplain ht nofun nofun⟩
  | restart hst =>
    have hcounts : s.Counts t := (OrderStore.Counts.unmap s).trans (.of_eq hst.removed hst.processing)
    have ht : K.Requests env since t R := h.others hcounts
      (by rw [hst.ipcRequests]; exact List.Subset.refl _) hst.ipcReplies
    exact ⟨ht, hplain ht nofun nofun⟩
  | setOrderPending => exact ⟨hnew, hplain hnew nofun nofun⟩
  | load => exact ⟨hnew, hplain hnew nofun nofun⟩
  | onChain report =>
    have ht : K.Requests env since { s with reports := report :: s.reports } R :=
      h.others (.of_eq rfl rfl) (List.Subset.refl _) rfl
    exact ⟨ht, hplain ht nofun nofun⟩
  | @serveIpc request hsent =>
    have ht : K.Requests env since { s with ipcRequests := s.ipcRequests.erase request } R :=
      h.others (.of_eq rfl rfl) List.erase_subset rfl
    refine ⟨ht, ht.start ⟨?_, fun _ _ hx => (nomatch hx), fun _ hx => (nomatch hx)⟩⟩
    rintro _ ⟨⟩
    exact h.requests request hsent

theorem requests_invariant [DecidableEq S] {mgr : OrderMgr E S} :
    (orderMoves K env).Invariant (mgr.program env) (fun _ _ _ => True) OrderEvt.start
      (K.Requests env since) where
  drop h := h.le (Multiset.le_cons_self _ _)
  move _ h hmove := h.move hmove
  wait _ h hwait := h.wait hwait
  answer _ h _ hans := h.answer (OrderOp.answer_cases hans)
  resume _ h _ := h.stay (.refl _) (List.Subset.refl _) rfl id
  event _ h _ hev hR := by
    have hboth := (h.le hR).event (OrderMgr.event_cases hev)
    split
    · exact hboth.1
    · exact hboth.2

end OrderKind

end CotServer
